namespace Patchbay.Url.Punycode

def digit (n : Nat) : Char :=
  if n < 26 then Char.ofNat (0x61 + n) else Char.ofNat (0x30 + (n - 26))

def digitValue? (c : Char) : Option Nat :=
  if 0x61 ≤ c.toNat && c.toNat ≤ 0x7A then some (c.toNat - 0x61)
  else if c.isDigit then some (c.toNat - 0x30 + 26)
  else none

def adaptOnto (delta weight : Nat) : Nat :=
  if 455 < delta then adaptOnto (delta / 35) (weight + 36) else weight + 36 * delta / (delta + 38)
termination_by delta
decreasing_by omega

/-- The bias after a delta, given how many characters there are then. -/
def adapt (delta count : Nat) (first : Bool) : Nat :=
  let delta := if first then delta / 700 else delta / 2
  adaptOnto (delta + delta / count) 0

def threshold (bias weight : Nat) : Nat :=
  min 26 (max 1 (weight - bias))

theorem threshold_pos (bias weight : Nat) : 0 < threshold bias weight := by
  unfold threshold
  omega

theorem threshold_le (bias weight : Nat) : threshold bias weight ≤ 26 := by
  unfold threshold
  omega

/-- Write a number with the least digits first; the digit below its threshold ends it. -/
def writeNumber (bias weight n : Nat) : List Char :=
  let t := threshold bias weight
  if n < t then [digit n]
  else digit (t + (n - t) % (36 - t)) :: writeNumber bias (weight + 36) ((n - t) / (36 - t))
termination_by n
decreasing_by
  have := threshold_pos bias weight
  exact Nat.lt_of_le_of_lt (Nat.div_le_self _ _) (by omega)

structure Progress where
  delta : Nat
  bias : Nat
  written : Nat
  basic : Nat
  out : List Char

/-- Account for one character of the label while the code point `point` is being written. -/
def stepChar (point : Nat) (progress : Progress) (c : Char) : Progress :=
  if c.toNat < point then { progress with delta := progress.delta + 1 }
  else if c.toNat = point then
    { progress with
      delta := 0
      bias := adapt progress.delta (progress.written + 1) (progress.written = progress.basic)
      written := progress.written + 1
      out := progress.out ++ writeNumber progress.bias 36 progress.delta }
  else progress

def insertPoint (n : Nat) : List Nat → List Nat
  | [] => [n]
  | m :: rest =>
      if n < m then n :: m :: rest else if n = m then m :: rest else m :: insertPoint n rest

/-- Write the code points in increasing order, `point` being the least that is not done. -/
def writePoints (label : List Char) : (points : List Nat) → (point : Nat) → Progress → Progress
  | [], _, progress => progress
  | next :: rest, point, progress =>
      let delta := progress.delta + (next - point) * (progress.written + 1)
      let stepped := label.foldl (stepChar next) { progress with delta }
      writePoints label rest (next + 1) { stepped with delta := stepped.delta + 1 }

/-- The ASCII characters of a label, and behind a hyphen where the others stand between them. -/
def encode (label : List Char) : List Char :=
  let basic := label.filter fun c => c.toNat < 0x80
  let points := (label.filter fun c => 0x80 ≤ c.toNat).foldl (fun ps c => insertPoint c.toNat ps) []
  let front := if basic.isEmpty then [] else basic ++ ['-']
  front ++ (writePoints label points 0x80 ⟨0, 72, basic.length, basic.length, []⟩).out

def readNumber? (bias : Nat) :
    (weight scale value : Nat) → List Char → Option (Nat × List Char)
  | _, _, _, [] => none
  | weight, scale, value, c :: rest =>
      match digitValue? c with
      | none => none
      | some d =>
          let t := threshold bias weight
          let value := value + d * scale
          if d < t then some (value, rest)
          else readNumber? bias (weight + 36) (scale * (36 - t)) value rest

theorem length_lt_of_readNumber? {bias weight scale value n : Nat} {text rest : List Char}
    (h : readNumber? bias weight scale value text = some (n, rest)) :
    rest.length < text.length := by
  induction text generalizing weight scale value with
  | nil => simp [readNumber?] at h
  | cons c more ih =>
      rw [readNumber?] at h
      split at h
      · simp at h
      · dsimp only at h
        split at h
        · simp_all
        · exact Nat.lt_succ_of_lt (ih h)

/-- Insert code points into `out`, `point` being the least that may come and `index` where the next
one would stand. -/
def insertPoints? (text : List Char) (point index bias : Nat) (out : List Char) :
    Option (List Char) :=
  if text.isEmpty then some out
  else
    match _h : readNumber? bias 36 1 0 text with
    | none => none
    | some (delta, rest) =>
        let count := out.length + 1
        let point := point + (index + delta) / count
        let place := (index + delta) % count
        if 0x110000 ≤ point || (0xD800 ≤ point && point < 0xE000) then none
        else
          insertPoints? rest point (place + 1) (adapt delta count (index = 0))
            (out.take place ++ Char.ofNat point :: out.drop place)
termination_by text.length
decreasing_by exact length_lt_of_readNumber? _h

/-- The parts before and behind the last hyphen. Without a hyphen, or with one at the very start,
all of the text is the second part. -/
def cutAtLastHyphen (text : List Char) : List Char × List Char :=
  let back := (text.reverse.takeWhile (· ≠ '-')).reverse
  match text.take (text.length - back.length) with
  | [] | ['-'] => ([], text)
  | front => (front.dropLast, back)

def decode? (text : List Char) : Option (List Char) :=
  let (basic, deltas) := cutAtLastHyphen text
  insertPoints? deltas 0x80 0 72 basic

end Patchbay.Url.Punycode
