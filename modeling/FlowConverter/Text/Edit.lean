/-! Small edits of texts, on their lists of characters: stripping a mark at both ends, deleting
what matches wherever it occurs, and replacing single characters. Deletion goes from left to right
and never looks at a deleted character again. -/
namespace FlowConverter.Text

/-- Drops every mark `m` from both ends. -/
def stripChars (m : Char) (s : List Char) : List Char :=
  ((s.dropWhile (· == m)).reverse.dropWhile (· == m)).reverse

def strip (m : Char) (s : String) : String := String.ofList (stripChars m s.toList)

/-- Deletes matches. At each place, `length?` measures the match that starts there, given the
character before the place and the text after it; `skip` characters of a match found before are
still to be dropped. -/
def deleteMatches (length? : Option Char → List Char → Option Nat) :
    Option Char → Nat → List Char → List Char
  | _, _, [] => []
  | _, skip + 1, c :: rest => deleteMatches length? (some c) skip rest
  | before, 0, c :: rest =>
    match length? before (c :: rest) with
    | some n => deleteMatches length? (some c) (n - 1) rest
    | none => c :: deleteMatches length? (some c) 0 rest

/-- Deletes matches that do not depend on what stands before them. -/
def deleteAll (length? : List Char → Option Nat) (s : List Char) : List Char :=
  deleteMatches (fun _ => length?) none 0 s

/-- The length of the first of `words` that the text starts with. -/
def wordLength? (words : List (List Char)) (s : List Char) : Option Nat :=
  (words.find? fun w => !w.isEmpty && w.isPrefixOf s).map List.length

def deleteWords (words : List String) (s : String) : String :=
  String.ofList (deleteAll (wordLength? (words.map String.toList)) s.toList)

/-- Puts `new` for every character that `p` holds of. -/
def replaceChars (p : Char → Bool) (new : Char) (s : String) : String :=
  String.ofList (s.toList.map fun c => if p c then new else c)

/-- The lines of a text, divided at line feeds; there is always at least one. -/
def linesOf : List Char → List (List Char)
  | [] => [[]]
  | c :: rest =>
    if c == '\n' then [] :: linesOf rest
    else match linesOf rest with
      | [] => [[c]]
      | l :: ls => (c :: l) :: ls

def lines (s : String) : List String := (linesOf s.toList).map String.ofList

end FlowConverter.Text
