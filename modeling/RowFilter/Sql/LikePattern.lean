/-! Patterns: how they match a text, and the pattern that finds a text anywhere inside another. -/

namespace RowFilter

/-- Whether a character has a meaning of its own in patterns. -/
def isPatternMark (c : Char) : Bool := c = '%' || c = '_' || c = '\\'

/-- A needle with every pattern mark escaped. -/
def escapeNeedle (needle : List Char) : List Char :=
  -- The escape is a mark as well, and is escaped like the others.
  needle.flatMap fun c => if isPatternMark c then ['\\', c] else [c]

/-- The pattern that matches every text with the needle inside. -/
def containsPattern (needle : String) : String :=
  -- A run at both ends makes the place of the needle free.
  String.ofList ('%' :: (escapeNeedle needle.toList ++ ['%']))

/-- A part of a pattern. -/
inductive PatternItem where
  /-- Any run of characters. -/
  | anyRun
  /-- Any one character. -/
  | anyOne
  | char (c : Char)
deriving DecidableEq

namespace PatternItem

/-- The parts of a pattern; an escape with nothing after it makes a pattern ill-formed. -/
def parse? : List Char → Option (List PatternItem)
  -- An escaped character stands for itself, whatever it is.
  | [] => some []
  | ['\\'] => none
  | '\\' :: c :: rest => (parse? rest).map (.char c :: ·)
  | '%' :: rest => (parse? rest).map (.anyRun :: ·)
  | '_' :: rest => (parse? rest).map (.anyOne :: ·)
  | c :: rest => (parse? rest).map (.char c :: ·)

/-- Whether a test holds at some place of a text, its end included. -/
def atSomePlace (test : List Char → Bool) : List Char → Bool
  -- The end of the text is a place too, where only what matches nothing fits.
  | [] => test []
  | c :: rest => test (c :: rest) || atSomePlace test rest

/-- Whether the parts of a pattern match a whole text, where `same` compares characters. -/
def matchAll (same : Char → Char → Bool) : List PatternItem → List Char → Bool
  -- Only a run may take any number of characters.
  | [], text => text.isEmpty
  | .anyRun :: items, text => atSomePlace (matchAll same items) text
  | .anyOne :: _, [] => false
  | .anyOne :: items, _ :: rest => matchAll same items rest
  | .char _ :: _, [] => false
  | .char expected :: items, c :: rest => same expected c && matchAll same items rest

end PatternItem

/-- Whether a text matches a pattern; nothing matches an ill-formed pattern. -/
def isLike (same : Char → Char → Bool) (pattern text : List Char) : Bool :=
  -- The pattern is taken apart once, before the text is looked at.
  match PatternItem.parse? pattern with
  | some items => PatternItem.matchAll same items text
  | none => false

end RowFilter
