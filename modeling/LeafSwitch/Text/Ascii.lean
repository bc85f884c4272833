import LeafSwitch.Text.Quoted

/-!
# Texts in ASCII

Some texts can only be sent if all their codes are below 128. Of one that cannot be sent, the first
run of other codes is told.
-/

namespace LeafSwitch.Text

/-- A run of codes beyond ASCII in a text. -/
structure BeyondAscii where
  /-- Its first code. -/
  code : Nat
  /-- The position of its first code, from 0. -/
  first : Nat
  /-- The position of its last code. -/
  last : Nat
  deriving DecidableEq, Repr

/-- The wording for a text with such a run. -/
def BeyondAscii.message (run : BeyondAscii) : String :=
  let what :=
    if run.first = run.last then
      "character '" ++ String.ofList (escapedCode run.code) ++ "' in position " ++
        toString run.first
    else "characters in position " ++ toString run.first ++ "-" ++ toString run.last
  "'ascii' codec can't encode " ++ what ++ ": ordinal not in range(128)"

/-- Whether a code is in ASCII. -/
def isAscii (n : Nat) : Bool :=
  n < 0x80

/-- The first run of codes beyond ASCII in a text. -/
def beyondAscii? (s : String) : Option BeyondAscii :=
  let before := (codesOf s).takeWhile isAscii
  match ((codesOf s).drop before.length).takeWhile fun n => !isAscii n with
  | [] => none
  | code :: more => some ⟨code, before.length, before.length + more.length⟩

end LeafSwitch.Text
