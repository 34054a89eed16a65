import Patchbay.Proofs.AddressNormal
import Patchbay.Proofs.SharedState
import Patchbay.Session.Link

namespace Patchbay

namespace Url.Query

variable {c : Char}

theorem specialQuery_of_mem_encodePart {text : String} (h : c ∈ encodePart text) :
    EscapeSet.specialQuery c = false := by
  obtain ⟨d, _, hc⟩ := List.mem_flatMap.mp (encodePart_eq text ▸ h)
  rcases mem_encodeChar hc with rfl | hescape
  · decide
  · exact EscapeSet.stable_specialQuery c hescape

theorem specialQuery_of_mem_encode {pairs : List (String × String)} (h : c ∈ encode pairs) :
    EscapeSet.specialQuery c = false := by
  obtain rfl | ⟨part, hpart, hc⟩ := mem_intercalate h
  · decide
  · obtain ⟨pair, _, rfl⟩ := List.mem_map.mp hpart
    rcases List.mem_append.mp hc with hc | hc
    · exact specialQuery_of_mem_encodePart hc
    · rcases List.mem_cons.mp hc with rfl | hc
      · decide
      · exact specialQuery_of_mem_encodePart hc

end Url.Query

namespace Link

variable {base link param payload : String} {url : Url}

theorem queryPairs_withPayload (url : Url) (param payload : String) :
    (withPayload url param payload).queryPairs =
      url.queryPairs.filter (fun pair => pair.1 ≠ param) ++ [(param, payload)] :=
  Url.Query.decode_encode_pairs _

theorem readsBack_withPayload (hbase : Url.parse base = .ok url) (hreads : url.ReadsBack)
    (param payload : String) :
    (withPayload url param payload).ReadsBack :=
  hreads.withQuery (Url.normal_of_parse hbase) fun _ => Url.Query.specialQuery_of_mem_encode

theorem make_of_parse (h : Url.parse base = .ok url) (param payload : String) :
    make base param payload = .ok (withPayload url param payload).text := by
  rw [make, h]

/-- All former values of the parameter are gone, so that the payload is the first value. -/
theorem payload?_of_parse (h : Url.parse link = .ok (withPayload url param payload))
    (hsome : payload ≠ "") :
    payload? link param = some payload := by
  have hgone : ∀ pair ∈ url.queryPairs.filter (fun pair => pair.1 ≠ param),
      ¬ (pair.1 == param && !pair.2.isEmpty) := by
    intro pair hpair
    have hne := of_decide_eq_true (List.mem_filter.mp hpair).2
    simp [hne]
  have hfound : (param == param && !payload.isEmpty) = true := by
    simpa using hsome
  rw [payload?, h]
  simp only [queryPairs_withPayload]
  rw [List.find?_append, List.find?_eq_none.mpr hgone, Option.none_or, List.find?_singleton,
    if_pos hfound]
  rfl

section Session

variable {runner : Runner} {settings : Settings}

theorem ofLink_of_payload {session : Session}
    (hlink : payload? link settings.shareParam = some payload)
    (hsession : Session.ofPayload payload runner settings = .ok session) :
    Session.ofLink link runner settings = session := by
  rw [Session.ofLink, hlink]
  simp only [hsession]

theorem ofPayload_encode (runner : Runner) (settings : Settings) {deflate : Deflate.Packer}
    {state : State} (hdeflate : deflate.Restores (Utf8.ofString state.compactText))
    (hfloats : ∀ x ∈ state.toJson.floats, x.ReadsBack)
    (hlength : (Utf8.ofString state.compactText).length ≤ Payload.maxStateBytes)
    (hnesting : state.toJson.nesting ≤ 127) :
    Session.ofPayload (Payload.encode deflate state) runner settings =
      .ok (Session.ofState state runner settings) := by
  have hstate := (State.ofBytes?_compactText hfloats).trans (if_pos hnesting)
  have hdecode := Payload.decode_of_unpack (Payload.unpack_pack hdeflate hlength) hstate
  rw [Session.ofPayload, Payload.encode, hdecode]

end Session

/-- A link carries its payload through every page address that is read back from its own text:
nothing else about the address changes, and what the payload restores, the link restores too. -/
theorem link_carries_payload (hbase : Url.parse base = .ok url) (hreads : url.ReadsBack)
    (param : String)
    (hpayload : payload ≠ "") :
    ∃ link linked, make base param payload = .ok link ∧ payload? link param = some payload ∧
      Url.parse link = .ok linked ∧
      linked.queryPairs = url.queryPairs.filter (fun pair => pair.1 ≠ param) ++ [(param, payload)] ∧
      linked = { url with query := linked.query } ∧
      ∀ (runner : Runner) (settings : Settings), settings.shareParam = param →
        (∀ session, Session.ofPayload payload runner settings = .ok session →
          Session.ofLink link runner settings = session) ∧
        ∀ (deflate : Deflate.Packer) (state : State), payload = Payload.encode deflate state →
          deflate.Restores (Utf8.ofString state.compactText) →
          (∀ x ∈ state.toJson.floats, x.ReadsBack) →
          (Utf8.ofString state.compactText).length ≤ Payload.maxStateBytes →
            state.toJson.nesting ≤ 127 →
          Session.ofPayload payload runner settings = .ok (Session.ofState state runner settings) ∧
            Session.ofLink link runner settings = Session.ofState state runner settings := by
  have hparse := readsBack_withPayload hbase hreads param payload
  have hlink := payload?_of_parse hparse hpayload
  refine ⟨_, _, make_of_parse hbase param payload, hlink, hparse,
    queryPairs_withPayload url param payload, rfl, ?_⟩
  rintro runner settings rfl
  refine ⟨fun session => ofLink_of_payload hlink, ?_⟩
  rintro deflate state rfl hdeflate hfloats hlength hnesting
  have hsession := ofPayload_encode runner settings hdeflate hfloats hlength hnesting
  exact ⟨hsession, ofLink_of_payload hlink hsession⟩

instance decidableEqExcept {ε α : Type} [DecidableEq ε] [DecidableEq α] : DecidableEq (Except ε α)
  | .ok a, .ok b => decidable_of_iff (a = b) (Except.ok.injEq a b ▸ Iff.rfl)
  | .error e, .error f => decidable_of_iff (e = f) (Except.error.injEq e f ▸ Iff.rfl)
  | .ok _, .error _ | .error _, .ok _ => .isFalse nofun

/-- A page with a value that is given twice, a default port, and a way up in its path. -/
def page : Url where
  scheme := "http".toList
  authority := some ⟨"User@".toList, .domain "patterns.example".toList, none⟩
  path := .segments ["editor".toList]
  query := some "flow=old&x=1%20y&flow=&x=+".toList
  fragment := some "top".toList

theorem page_link_carries_payload :
    ∃ link linked,
      make "HTTP://User@Patterns.Example:80/a/../editor?flow=old&x=1%20y&flow=&x=+#top"
        "flow" "a b&c=é" =
        .ok link ∧
      payload? link "flow" = some "a b&c=é" ∧ Url.parse link = .ok linked ∧
      linked.queryPairs = [("x", "1 y"), ("x", " "), ("flow", "a b&c=é")] := by
  have hbase :
      Url.parse "HTTP://User@Patterns.Example:80/a/../editor?flow=old&x=1%20y&flow=&x=+#top" =
          .ok page := by
    decide +kernel
  have hreads : page.ReadsBack := by
    rw [Url.ReadsBack]
    decide +kernel
  have hsome : "a b&c=é" ≠ "" := by decide
  obtain ⟨link, linked, hlink, hpayload, hparse, hpairs, _⟩ :=
    link_carries_payload hbase hreads "flow" hsome
  exact ⟨link, linked, hlink, hpayload, hparse, hpairs.trans (by decide +kernel)⟩

end Link

end Patchbay
