import OpeningTimes.Text.CaseTable
import OpeningTimes.Text.CaseProperty

/-!
Case of whole texts.  A text is made small character by character, except that a capital sigma
looks at its neighbours to see whether it ends a word; a text is capitalized by making all of it
small and then replacing its first character by that character's capital form.
-/

namespace OpeningTimes.Text

/-- The code point on the other side of the runs, or the same code point outside them. -/
def mapRuns (runs : List CaseRun) (code : Nat) : Nat :=
  (runs.findSome? (fun run => run.map? code)).getD code

def smallForm (c : Char) : List Char :=
  if c = 'İ' then ['i', '\u0307'] else [Char.ofNat (mapRuns smallRuns c.toNat)]

/-- The capital form of a character on its own. -/
def capitalForm (c : Char) : List Char :=
  match capitalExpansions.lookup c.toNat with
  | some codes => codes.map Char.ofNat
  | none => [Char.ofNat (mapRuns capitalRuns c.toNat)]

/-- Whether the first character that case rules do not look through is a letter with case. -/
def startsCased (cs : List Char) : Bool :=
  match cs.dropWhile isCaseIgnorable with
  | [] => false
  | c :: _ => isCased c

/-- A sigma ends a word when a letter stands before it and none after it.  The characters before
it are given in reverse. -/
def endsWord (before after : List Char) : Bool :=
  startsCased before && !startsCased after

/-- The small form of the characters, with the characters already passed in reverse. -/
def lowerFrom (before : List Char) : List Char → List Char
  | [] => []
  | c :: rest =>
      let small :=
        if c = 'Σ' then (if endsWord before rest then ['ς'] else ['σ']) else smallForm c
      small ++ lowerFrom (c :: before) rest

def lowerCase (s : String) : String :=
  String.ofList (lowerFrom [] s.toList)

/-- The text in small letters with its first character, after that, in capital form. -/
def capitalize (s : String) : String :=
  match lowerFrom [] s.toList with
  | [] => ""
  | c :: rest => String.ofList (capitalForm c ++ rest)

end OpeningTimes.Text
