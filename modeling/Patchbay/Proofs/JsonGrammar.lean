import Patchbay.Proofs.JsonNumbers
import Patchbay.Proofs.JsonStrings

namespace Patchbay.Json

/-- The rest of a text, from where the reading stands, gives this value. -/
inductive Reading : List UInt8 → Progress → Raw → Prop where
  | finished (value : Raw) : Reading [] (.finished value) value
  | space {b : UInt8} {rest : List UInt8} {progress : Progress} {value : Raw} (hspace : isSpace b)
      (reading : Reading rest progress value) : Reading (b :: rest) progress value
  | step {b : UInt8} {more rest : List UInt8} {token : Token}
    {progress next : Progress} {value : Raw}
      (space : isSpace b = false) (take : takeToken (b :: more) = some (token, rest))
      (shorter : rest.length ≤ more.length) (advance : advance token progress = some next)
      (reading : Reading rest next value) : Reading (b :: more) progress value

theorem tokenRounds_space {b : UInt8} (h : isSpace b) (rounds : Nat) (rest : List UInt8)
    (done : List Token) :
    tokenRounds rounds (b :: rest) done = tokenRounds rounds rest done := by
  cases rounds <;> rw [tokenRounds, tokenRounds, List.dropWhile_cons_of_pos h]

theorem Reading.exists_tokens {text : List UInt8} {progress : Progress} {value : Raw}
    (h : Reading text progress value) {rounds : Nat} (hrounds : text.length ≤ rounds)
    (done : List Token) :
    ∃ ts, tokenRounds rounds text done = some (done.reverse ++ ts) ∧
      run ts progress = some (.finished value) := by
  induction h generalizing rounds done with
  | finished value =>
    refine ⟨[], ?_, rfl⟩
    cases rounds <;> simp [tokenRounds]
  | space hspace _ ih =>
    obtain ⟨ts, htokens, hrun⟩ := ih (Nat.le_of_succ_le hrounds) done
    exact ⟨ts, (tokenRounds_space hspace rounds _ done).trans htokens, hrun⟩
  | @step b more rest token progress next value space take shorter hadvance _ ih =>
    obtain ⟨rounds, rfl⟩ : ∃ n, rounds = n + 1 :=
      ⟨rounds - 1, by rw [List.length_cons] at hrounds; omega⟩
    have hrest : rest.length ≤ rounds := by
      rw [List.length_cons] at hrounds
      omega
    obtain ⟨ts, htokens, hrun⟩ := ih hrest (token :: done)
    refine ⟨token :: ts, ?_, ?_⟩
    · rw [tokenRounds, List.dropWhile_cons_of_neg (by simp [space])]
      simp only [take, htokens, List.reverse_cons, List.append_assoc, List.singleton_append]
    · rw [run, hadvance]
      exact hrun

theorem Reading.read?_eq {text : List UInt8} {value : Raw}
    (h : Reading text (.inside .value []) value) :
    read? text = some value := by
  obtain ⟨ts, htokens, hrun⟩ := h.exists_tokens (Nat.le_refl _) []
  rw [read?, tokens, htokens]
  simp only [List.reverse_nil, List.nil_append, hrun]

def Spaces (bytes : List UInt8) : Prop :=
  ∀ b ∈ bytes, isSpace b

theorem spaces_nil : Spaces [] := by
  rintro _ ⟨⟩

mutual

/-- The texts that write a value, with spaces before and after any of its tokens. -/
inductive Spelled : Raw → List UInt8 → Prop where
  | null : Spelled .null (Utf8.ofString "null")
  | bool (b : Bool) : Spelled (.bool b) (Utf8.ofString (if b then "true" else "false"))
  | number {n : Numeral} {mark : Char} (h : n.Printed) (hmark : Numeral.IsExponentMark mark) :
      Spelled (.number n) (Utf8.encode (n.markedText mark))
  | string {body : List UInt8} (h : StringBody body) :
      Spelled (.string body) ('"'.toUInt8 :: (body ++ ['"'.toUInt8]))
  | emptyArray {spaces : List UInt8} (h : Spaces spaces) :
      Spelled (.array []) ('['.toUInt8 :: (spaces ++ [']'.toUInt8]))
  | array {items : List Raw} {text : List UInt8} (h : SpelledItems items text) :
      Spelled (.array items) ('['.toUInt8 :: (text ++ [']'.toUInt8]))
  | emptyObject {spaces : List UInt8} (h : Spaces spaces) :
      Spelled (.object []) ('{'.toUInt8 :: (spaces ++ ['}'.toUInt8]))
  | object {members : List (List UInt8 × Raw)} {text : List UInt8}
    (h : SpelledMembers members text) :
      Spelled (.object members) ('{'.toUInt8 :: (text ++ ['}'.toUInt8]))
  | spaced {value : Raw} {before text after : List UInt8} (hbefore : Spaces before)
    (h : Spelled value text)
      (hafter : Spaces after) : Spelled value (before ++ (text ++ after))

inductive SpelledItems : List Raw → List UInt8 → Prop where
  | last {item : Raw} {text : List UInt8} (h : Spelled item text) : SpelledItems [item] text
  | cons {item : Raw} {rest : List Raw} {text more : List UInt8} (h : Spelled item text)
      (hrest : SpelledItems rest more) : SpelledItems (item :: rest) (text ++ ','.toUInt8 :: more)

inductive SpelledMembers : List (List UInt8 × Raw) → List UInt8 → Prop where
  | last {key : List UInt8} {value : Raw} {keyText text : List UInt8}
    (hkey : Spelled (.string key) keyText)
      (h : Spelled value text) : SpelledMembers [(key, value)] (keyText ++ ':'.toUInt8 :: text)
  | cons {key : List UInt8} {value : Raw} {rest : List (List UInt8 × Raw)}
    {keyText text more : List UInt8}
      (hkey : Spelled (.string key) keyText) (h : Spelled value text)
        (hrest : SpelledMembers rest more) :
      SpelledMembers ((key, value) :: rest)
        (keyText ++ ':'.toUInt8 :: (text ++ ','.toUInt8 :: more))

end

section Tokens

variable {rest : List UInt8} {progress next : Progress} {value : Raw}

theorem Reading.spaces {bytes : List UInt8} (hspaces : Spaces bytes)
    (h : Reading rest progress value) :
    Reading (bytes ++ rest) progress value := by
  induction bytes with
  | nil => exact h
  | cons b more ih =>
    obtain ⟨hb, hmore⟩ := List.forall_mem_cons.mp hspaces
    exact .space hb (ih hmore)

theorem Reading.punctuation (b : UInt8) (token : Token)
    (htoken : (b, token) ∈ [('['.toUInt8, Token.beginArray), (']'.toUInt8, .endArray),
      ('{'.toUInt8, .beginObject),
      ('}'.toUInt8, .endObject), (','.toUInt8, .comma), (':'.toUInt8, .colon)])
    (hadvance : advance token progress = some next) (h : Reading rest next value) :
    Reading (b :: rest) progress value := by
  have htake : isSpace b = false ∧ takeToken (b :: rest) = some (token, rest) := by
    simp only [List.mem_cons, Prod.mk.injEq, List.not_mem_nil, or_false] at htoken
    rcases htoken with ⟨rfl, rfl⟩ | ⟨rfl, rfl⟩ | ⟨rfl, rfl⟩ | ⟨rfl, rfl⟩ | ⟨rfl,
      rfl⟩ | ⟨rfl, rfl⟩ <;>
      exact ⟨by decide, rfl⟩
  exact .step htake.1 htake.2 (Nat.le_refl _) hadvance h

theorem Reading.string {body : List UInt8} (hbody : StringBody body)
    (hadvance : advance (.string body) progress = some next) (h : Reading rest next value) :
    Reading ('"'.toUInt8 :: (body ++ '"'.toUInt8 :: rest)) progress value := by
  have htake : takeToken ('"'.toUInt8 :: (body ++ '"'.toUInt8 :: rest)) =
      some (.string body, rest) := by
    have hstring := hbody.takeString_append rest []
    rw [List.reverse_nil, List.nil_append] at hstring
    rw [takeToken.eq_def]
    simp only [hstring]
    rfl
  refine .step (by decide) htake ?_ hadvance h
  rw [List.length_append, List.length_cons]
  omega

theorem Reading.number {n : Numeral} (hn : n.Printed) {mark : Char}
    (hmark : Numeral.IsExponentMark mark)
    (hrest : ∀ b ∈ rest.head?,
      isNumberByte b = false) (hadvance : advance (.number n) progress = some next)
    (h : Reading rest next value) :
    Reading (Utf8.encode (n.markedText mark) ++ rest) progress value := by
  obtain ⟨b, more, hbytes, hspace, htake⟩ := exists_takeToken_numeral hn.digital hn.number hmark
  rw [hbytes]
  exact .step hspace (htake rest hrest) (by simp) hadvance h

theorem Reading.word (word : String) (token : Token)
    (htoken : (word, token) ∈ [("null", Token.null), ("true", .bool true), ("false", .bool false)])
    (hadvance : advance token progress = some next) (h : Reading rest next value) :
    Reading (Utf8.ofString word ++ rest) progress value := by
  have htake : ∃ b more, Utf8.ofString word = b :: more ∧ isSpace b = false ∧
      takeToken (b :: (more ++ rest)) = some (token, rest) := by
    simp only [List.mem_cons, Prod.mk.injEq, List.not_mem_nil, or_false] at htoken
    rcases htoken with ⟨rfl, rfl⟩ | ⟨rfl, rfl⟩ | ⟨rfl, rfl⟩ <;>
      exact ⟨_, _, rfl, by decide, by rfl⟩
  obtain ⟨b, more, hbytes, hspace, htake⟩ := htake
  rw [hbytes]
  exact .step hspace htake (by simp) hadvance h

end Tokens

/-- A byte that may follow a value: none that could belong to a number. -/
def EndsValue (rest : List UInt8) : Prop :=
  ∀ b ∈ rest.head?, isNumberByte b = false

theorem endsValue_nil : EndsValue [] := by
  rintro _ ⟨⟩

theorem endsValue_cons {b : UInt8} (h : isNumberByte b = false) (rest : List UInt8) :
    EndsValue (b :: rest) := by
  rintro _ ⟨⟩
  exact h

theorem endsValue_spaces {spaces rest : List UInt8} (hspaces : Spaces spaces) (h : EndsValue rest) :
    EndsValue (spaces ++ rest) := by
  cases spaces with
  | nil => exact h
  | cons b more =>
    refine endsValue_cons (Bool.eq_false_iff.mpr fun hb => ?_) _
    exact Bool.false_ne_true
      ((isSpace_of_isNumberByte hb).symm.trans (hspaces b List.mem_cons_self))

/-- A value is expected, or perhaps the end of an array as well. -/
def ExpectsValue (progress : Progress) (frames : List Frame) : Prop :=
  ∀ token, token ≠ .endArray → advance token progress = beginValue frames token

theorem expectsValue (frames : List Frame) : ExpectsValue (.inside .value frames) frames :=
  fun _ _ => rfl

theorem expectsValue_or_end (frames : List Frame) :
    ExpectsValue (.inside .valueOrEnd frames) frames :=
  fun _ hne => if_neg hne

def ExpectsKey (progress : Progress) (done : List (List UInt8 × Raw)) (frames : List Frame) :
    Prop :=
  ∀ key, advance (.string key) progress = some (.inside .colon (.member done key :: frames))

theorem expectsKey (done : List (List UInt8 × Raw)) (frames : List Frame) :
    ExpectsKey (.inside .key (.members done :: frames)) done frames :=
  fun _ => rfl

theorem expectsKey_or_end (done : List (List UInt8 × Raw)) (frames : List Frame) :
    ExpectsKey (.inside .keyOrEnd (.members done :: frames)) done frames := by
  intro key
  rw [advance, if_neg (by simp), beginMember]

theorem Spelled.reading_string {value last : Raw} {key text rest : List UInt8}
    {progress next : Progress}
    (h : Spelled value text) (hvalue : value = .string key)
    (hadvance : advance (.string key) progress = some next)
    (hnext : Reading rest next last) : Reading (text ++ rest) progress last := by
  match h, hvalue with
  | .string hbody, rfl =>
    rw [List.cons_append, List.append_assoc, List.singleton_append]
    exact .string hbody hadvance hnext
  | .spaced hbefore h hafter, hvalue =>
    rw [List.append_assoc, List.append_assoc]
    exact .spaces hbefore (h.reading_string hvalue hadvance (.spaces hafter hnext))

mutual

/-- A written value is read as what it is, and is then handed to the container around it. -/
theorem Spelled.reading {value last : Raw} {text rest : List UInt8} {progress next : Progress}
    {frames : List Frame} (h : Spelled value text) (hexpects : ExpectsValue progress frames)
    (hrest : EndsValue rest) (hcomplete : complete value frames = some next)
    (hnext : Reading rest next last) :
    Reading (text ++ rest) progress last := by
  match h with
  | .null => exact .word "null" .null (by decide) ((hexpects .null (by simp)).trans hcomplete) hnext
  | .bool b =>
    have hadvance := (hexpects (.bool b) (by simp)).trans hcomplete
    cases b with
    | false => exact .word "false" (.bool false) (by decide) hadvance hnext
    | true => exact .word "true" (.bool true) (by decide) hadvance hnext
  | .number hn hmark =>
    exact .number hn hmark hrest ((hexpects (.number _) (by simp)).trans hcomplete) hnext
  | .string hbody =>
    rw [List.cons_append, List.append_assoc, List.singleton_append]
    exact .string hbody ((hexpects (.string _) (by simp)).trans hcomplete) hnext
  | .emptyArray hspaces =>
    rw [List.cons_append, List.append_assoc, List.singleton_append]
    refine .punctuation _ .beginArray (by decide) (hexpects .beginArray (by simp)) ?_
    exact .spaces hspaces (.punctuation _ .endArray (by decide) hcomplete hnext)
  | .array hitems =>
    rw [List.cons_append, List.append_assoc, List.singleton_append]
    refine .punctuation _ .beginArray (by decide) (hexpects .beginArray (by simp)) ?_
    exact hitems.reading (expectsValue_or_end _) hcomplete hnext
  | .emptyObject hspaces =>
    rw [List.cons_append, List.append_assoc, List.singleton_append]
    refine .punctuation _ .beginObject (by decide) (hexpects .beginObject (by simp)) ?_
    exact .spaces hspaces (.punctuation _ .endObject (by decide) hcomplete hnext)
  | .object hmembers =>
    rw [List.cons_append, List.append_assoc, List.singleton_append]
    refine .punctuation _ .beginObject (by decide) (hexpects .beginObject (by simp)) ?_
    exact hmembers.reading (expectsKey_or_end _ _) hcomplete hnext
  | .spaced hbefore h hafter =>
    rw [List.append_assoc, List.append_assoc]
    refine .spaces hbefore ?_
    exact h.reading hexpects (endsValue_spaces hafter hrest) hcomplete (.spaces hafter hnext)

theorem SpelledItems.reading {items done : List Raw} {last : Raw} {text rest : List UInt8}
    {progress next : Progress} {frames : List Frame} (h : SpelledItems items text)
    (hexpects : ExpectsValue progress (.items done :: frames))
    (hcomplete : complete (.array (done.reverse ++ items)) frames = some next)
    (hnext : Reading rest next last) :
    Reading (text ++ ']'.toUInt8 :: rest) progress last := by
  match h with
  | .last h =>
    refine h.reading hexpects (endsValue_cons (by decide) rest) rfl ?_
    refine .punctuation _ .endArray (by decide) ?_ hnext
    rwa [← List.reverse_cons] at hcomplete
  | .cons h hrest =>
    rw [List.append_assoc, List.cons_append]
    refine h.reading hexpects (endsValue_cons (by decide) _) rfl ?_
    refine .punctuation _ .comma (by decide) rfl ?_
    refine hrest.reading (expectsValue _) ?_ hnext
    rwa [List.reverse_cons, List.append_assoc]

theorem SpelledMembers.reading {members done : List (List UInt8 × Raw)} {last : Raw}
    {text rest : List UInt8}
    {progress next : Progress} {frames : List Frame} (h : SpelledMembers members text)
    (hexpects : ExpectsKey progress done frames)
    (hcomplete : complete (.object (done.reverse ++ members)) frames = some next)
    (hnext : Reading rest next last) : Reading (text ++ '}'.toUInt8 :: rest) progress last := by
  match h with
  | .last hkey h =>
    rw [List.append_assoc, List.cons_append]
    refine hkey.reading_string rfl (hexpects _) (.punctuation _ .colon (by decide) rfl ?_)
    refine h.reading (expectsValue _) (endsValue_cons (by decide) rest) rfl ?_
    refine .punctuation _ .endObject (by decide) ?_ hnext
    rwa [← List.reverse_cons] at hcomplete
  | .cons hkey h hrest =>
    rw [List.append_assoc, List.cons_append, List.append_assoc, List.cons_append]
    refine hkey.reading_string rfl (hexpects _) (.punctuation _ .colon (by decide) rfl ?_)
    refine h.reading (expectsValue _) (endsValue_cons (by decide) _) rfl ?_
    refine .punctuation _ .comma (by decide) rfl ?_
    refine hrest.reading (expectsKey _ _) ?_ hnext
    rwa [List.reverse_cons, List.append_assoc]

end

theorem Spelled.read?_eq {value : Raw} {text : List UInt8} (h : Spelled value text) :
    read? text = some value := by
  have hreading := h.reading (expectsValue []) endsValue_nil rfl (.finished value)
  rw [List.append_nil] at hreading
  exact hreading.read?_eq

end Patchbay.Json
