/-! Bytes as text: in UTF-8, up to the place where bytes stop being text, and in the standard alphabet
of base 64. -/

namespace RowFilter.Utf8

/-- Where bytes stop being text. -/
structure Fault where
  /-- The number of bytes before the first wrong character. -/
  index : Nat
  /-- The number of wrong bytes, or none if the bytes end inside a character. -/
  length : Option Nat
deriving DecidableEq

/-- The wording of a fault. -/
def Fault.message (fault : Fault) : String :=
  -- Bytes that end too early are told apart from wrong ones.
  match fault.length with
  | some length => s!"invalid utf-8 sequence of {length} bytes from index {fault.index}"
  | none => s!"incomplete utf-8 byte sequence from index {fault.index}"

/-- A first byte: the bits it carries, and the ranges in which the bytes after it have to lie. -/
structure Lead where
  bits : Nat
  rest : List (Nat × Nat)

/-- The range of bytes that continue a character. -/
def continuation : Nat × Nat := (0x80, 0xBF)

/-- What a first byte says about its character; overlong and surrogate forms are left out. -/
def lead? (byte : Nat) : Option Lead :=
  -- Bytes that would encode a number in too many bytes open no character.
  if byte < 0x80 then some ⟨byte, []⟩
  else if byte < 0xC2 then none
  else if byte < 0xE0 then some ⟨byte - 0xC0, [continuation]⟩
  else if byte < 0xF0 then
    let second :=
      if byte = 0xE0 then (0xA0, 0xBF) else if byte = 0xED then (0x80, 0x9F) else continuation
    some ⟨byte - 0xE0, [second, continuation]⟩
  else if byte < 0xF5 then
    let second :=
      if byte = 0xF0 then (0x90, 0xBF) else if byte = 0xF4 then (0x80, 0x8F) else continuation
    some ⟨byte - 0xF0, [second, continuation, continuation]⟩
  else none

/-- Reads the bytes after a first byte, or says how many bytes are wrong. -/
def readRest (value taken : Nat) : List (Nat × Nat) → List UInt8 → Except (Option Nat) Nat
  -- Only the second byte may have a narrower range than the others.
  | [], _ => .ok value
  | _ :: _, [] => .error none
  | (low, high) :: ranges, byte :: bytes =>
    if low ≤ byte.toNat ∧ byte.toNat ≤ high then
      readRest (value * 64 + (byte.toNat - 0x80)) (taken + 1) ranges bytes
    else .error (some taken)

/-- Reads bytes of which some, already part of the character before, are passed over. -/
def decodeFrom (index skip : Nat) : List UInt8 → Except Fault (List Char)
  -- The index counts bytes, so that a fault tells where it is.
  | [] => .ok []
  | byte :: bytes =>
    match skip with
    | skip + 1 => decodeFrom (index + 1) skip bytes
    | 0 =>
      match lead? byte.toNat with
      | none => .error ⟨index, some 1⟩
      | some lead =>
        match readRest lead.bits 1 lead.rest bytes with
        | .error length => .error ⟨index, length⟩
        | .ok value =>
          (decodeFrom (index + 1) lead.rest.length bytes).map (Char.ofNat value :: ·)

/-- The text that bytes spell, or where they stop being text. -/
def decode (bytes : List UInt8) : Except Fault String :=
  -- Nothing has been read or passed over yet.
  (decodeFrom 0 0 bytes).map String.ofList

/-- The character of a value that lenient reading found, where what is none is replaced. -/
def lenientChar (value : Nat) : Char :=
  -- Values below 128 have a byte of their own, and were encoded in too many bytes.
  if value < 0x80 ∨ value / 2 = 0x7FFF ∨ !value.isValidChar then Char.ofNat 0xFFFD
  else Char.ofNat value

/-- The bits that lenient reading takes from a first byte. -/
def lenientLead (byte : Nat) : Nat :=
  -- The number of leading ones says how many bits are left.
  if byte < 0xE0 then byte % 32
  else if byte < 0xF0 then byte % 16
  else if byte < 0xF8 then byte % 8
  else if byte < 0xFC then byte % 4
  else if byte < 0xFE then byte % 2
  else 0

/-- Reads bytes whether they are text or not; a first byte takes all continuing bytes after it. -/
def lenientFrom (pending : Option Nat) : List UInt8 → List Char
  -- There is no fault, since every byte becomes part of some character.
  | [] => (pending.map lenientChar).toList
  | byte :: bytes =>
    let number := byte.toNat
    let others (_ : Unit) : List Char :=
      if number < 0xC0 then Char.ofNat number :: lenientFrom none bytes
      else lenientFrom (some (lenientLead number)) bytes
    match pending with
    | none => others ()
    | some value =>
      -- A byte that continues nothing closes the character before it.
      if 0x80 ≤ number ∧ number < 0xC0 then
        lenientFrom (some ((value * 64 + number % 64) % 0x100000000)) bytes
      else lenientChar value :: others ()

/-- The characters of bytes, whether they are text or not. -/
def decodeLeniently (bytes : List UInt8) : List Char := lenientFrom none bytes

end RowFilter.Utf8

namespace RowFilter.Base64

/-- The alphabet, by value. -/
def alphabet : List Char :=
  -- The two signs behind letters and digits are those of the standard alphabet.
  "ABCDEFGHIJKLMNOPQRSTUVWXYZabcdefghijklmnopqrstuvwxyz0123456789+/".toList

/-- The character of six bits. -/
def digit (value : Nat) : Char := alphabet.getD (value % 64) 'A'

/-- Three bytes make four characters, and a shorter rest is padded. -/
def encode : List UInt8 → List Char
  -- Three bytes are 24 bits, of which each character shows six.
  | [] => []
  | [a] => [digit (a.toNat / 4), digit (a.toNat * 16), '=', '=']
  | [a, b] =>
    let word := a.toNat * 256 + b.toNat
    [digit (word / 1024), digit (word / 16), digit (word * 4), '=']
  | a :: b :: c :: rest =>
    let word := (a.toNat * 256 + b.toNat) * 256 + c.toNat
    digit (word / 262144) :: digit (word / 4096) :: digit (word / 64) :: digit word
      :: encode rest

end RowFilter.Base64
