namespace Patchbay.Program

/-- The text up to and with the closing parenthesis of a call, of which `depth` are open, and
what follows it. A call that is never closed takes the whole text. -/
def takeCall : (depth : Nat) → List Char → (done : List Char) → List Char × List Char
  | _, [], done => (done.reverse, [])
  | depth, c :: rest, done =>
      if c = '(' then takeCall (depth + 1) rest (c :: done)
      else if c = ')' then
        if depth ≤ 1 then ((c :: done).reverse, rest) else takeCall (depth - 1) rest (c :: done)
      else takeCall depth rest (c :: done)

def findOpening (opening : List Char) : List Char → (done : List Char) →
    Option (List Char × List Char)
  | [], _ => none
  | c :: rest, done =>
      if opening.isPrefixOf (c :: rest) then some (done.reverse, c :: rest)
      else findOpening opening rest (c :: done)

structure Cut where
  calls : List (List Char × List Char)
  rest : List Char
deriving DecidableEq

/-- Every call takes at least its opening, so as many rounds as characters are enough. -/
def cutRounds (opening : List Char) : (rounds : Nat) → List Char → Cut
  | 0, text => ⟨[], text⟩
  | rounds + 1, text =>
      match findOpening opening text [] with
      | none => ⟨[], text⟩
      | some (before, found) =>
          let (arguments, rest) := takeCall 1 (found.drop opening.length) []
          let cut := cutRounds opening rounds rest
          ⟨(before, opening ++ arguments) :: cut.calls, cut.rest⟩

/-- Cut a text at its calls of one function. `opening` is how such a call starts, up to its
parenthesis; a call ends with the parenthesis that closes it. -/
def cutCalls (opening text : List Char) : Cut :=
  cutRounds opening text.length text

namespace Cut

def callTexts (cut : Cut) : List (List Char) :=
  cut.calls.map (·.2)

def spansFrom : (offset : Nat) → List (List Char × List Char) → List (Nat × Nat)
  | _, [] => []
  | offset, (before, call) :: rest =>
      let start := offset + before.length
      let stop := start + call.length
      (start, stop) :: spansFrom stop rest

def spans (cut : Cut) : List (Nat × Nat) :=
  spansFrom 0 cut.calls

def dropSemicolon : List Char → List Char
  | ';' :: rest => rest
  | text => text

/-- What is left without the calls, each with the semicolon right behind it. -/
def remainder (cut : Cut) : List Char :=
  match cut.calls with
  | [] => cut.rest
  | (before, _) :: calls =>
      before ++ (calls.map fun entry => dropSemicolon entry.1).flatten ++ dropSemicolon cut.rest

end Cut

end Patchbay.Program
