import Patchbay.CommandLine.Run
import Patchbay.Proofs.SharedLink
import Patchbay.Proofs.StateNesting

namespace Patchbay

theorem Project.load_of_ofBytes? {text : String} {state : State}
    (h : State.ofBytes? (Utf8.ofString text) = some state) (writable : Bool) :
    load (.file (Utf8.ofString text) writable) = .ok state := by
  rw [load, FileEntry.text?, Utf8.toString?_ofString]
  simp only [h]

theorem Payload.ofBytes?_of_decode {payload : String} {state : State}
    (h : decode payload = .ok state) :
    ∃ text, State.ofBytes? text = some state := by
  unfold decode at h
  split at h
  · cases h
  · next text _ =>
    split at h
    · next hstate =>
      cases h
      exact ⟨text, hstate⟩
    · cases h

namespace State

variable {state : State}

theorem spelled_indentedText (state : State) :
    Json.Spelled state.toJson.raw (Utf8.ofString state.indentedText) :=
  Json.spelled_indented 0 state.toJson

theorem spelled_line (state : State) :
    Json.Spelled state.toJson.raw (Utf8.ofString (Command.line state.indentedText)) := by
  have hbreak : Json.Spaces (Utf8.ofString "\n") := Json.spaces_newline 0
  rw [Command.line, Utf8.ofString_append]
  have hspelled := Json.Spelled.spaced Json.spaces_nil state.spelled_indentedText hbreak
  rwa [List.nil_append] at hspelled

end State

namespace Command

variable {deflate : Deflate.Packer} {files : Files} {session : Session} {state : State}
variable {input path : String}

theorem run_openShared (h : Link.decode input files.userSettings.shareParam = .ok state) :
    run deflate files (.openShared input) = .ok { output := line state.indentedText } := by
  rw [run]
  -- To state the equation of the definition, Lean would try to run the decoder.
  delta runOpen
  rw [h]

theorem run_compile (h : files.openProject path = .ok session) :
    run deflate files (.compile path) = .ok { output := programOutput session.compile } := by
  rw [run, h]
  rfl

theorem run_share (h : files.openProject path = .ok session) (page : Option String) :
    run deflate files (.share path page) =
      ((Project.share deflate session page).mapError CommandError.page).map fun link =>
        { output := line link } := by
  rw [run, runShare, h]
  cases hshare : Project.share deflate session page <;> simp only [hshare] <;> rfl

end Command

namespace Link

/-- The text that opening a link or a payload prints is a project of just the state that was
carried, whatever the text in the payload looked like. Compiling or sharing that project is what the
session restored from the payload itself does, under all settings. -/
theorem opened_text_is_project (input param : String) {state : State}
    (hopen : decode input param = .ok state)
    (hfloats : ∀ x ∈ state.toJson.floats, x.ReadsBack) :
    (∀ (deflate : Deflate.Packer) (files : Files), files.userSettings.shareParam = param →
        Command.run deflate files (.openShared input) =
          .ok { output := Command.line state.indentedText }) ∧
      ∀ text ∈ [state.indentedText, Command.line state.indentedText], ∀ writable : Bool,
        Project.load (.file (Utf8.ofString text) writable) = .ok state ∧
          ∀ (files : Files) (path : String), files.project = .file (Utf8.ofString text) writable →
            ∃ session, files.openProject path = .ok session ∧
              Session.ofPayload ((payload? input param).getD (Text.trim input))
                  { settings := files.userSettings.runnerSettings } files.userSettings =
                    .ok session ∧
              ∀ deflate, Command.run deflate files (.compile path) =
                .ok { output := Command.programOutput session.compile } ∧
              ∀ page, Command.run deflate files (.share path page) =
                ((Project.share deflate session page).mapError CommandError.page).map
                  fun link => { output := Command.line link } := by
  obtain ⟨carried, hcarried⟩ := Payload.ofBytes?_of_decode hopen
  have hnesting := State.nesting_of_ofBytes? hcarried
  have hload : ∀ text ∈ [state.indentedText, Command.line state.indentedText], ∀ writable,
      Project.load (.file (Utf8.ofString text) writable) = .ok state := by
    have hread := fun text (htext : Json.Spelled state.toJson.raw (Utf8.ofString text)) =>
      Project.load_of_ofBytes? (State.ofBytes?_of_spelled hfloats hnesting htext)
    simp only [List.forall_mem_cons]
    exact ⟨hread _ state.spelled_indentedText, hread _ state.spelled_line, by simp⟩
  refine ⟨?_, fun text htext writable => ⟨hload text htext writable, fun files path hfile => ?_⟩⟩
  · rintro deflate files rfl
    exact Command.run_openShared hopen
  · have hsession : files.openProject path =
        .ok (Project.openSession state files.userSettings) := by
      rw [Files.openProject, hfile, hload text htext writable]
    refine ⟨_, hsession, ?_,
      fun deflate => ⟨Command.run_compile hsession, Command.run_share hsession⟩⟩
    rw [decode] at hopen
    rw [Session.ofPayload, hopen]
    rfl

/-- A page with a payload: a text that writes structures as arrays, leaves fields out, and gives a
key twice. -/
def terseLink : String :=
  "http://page/?flow=ASsA1P9bMSxbWyJhIiwiZ2FpbiIsW251bGwseyJiIjoxLCJiIjpbXX1dXV0sW11d"

def terseGain : State where
  nodes := [{ id := "a", typeId := "gain", data := { values := .ofList [("b", .array [])] } }]
  edges := []

theorem terse_gain_is_project :
    decode terseLink "flow" = .ok terseGain ∧ (∀ x ∈ terseGain.toJson.floats, x.ReadsBack) ∧
      Project.load (.file (Utf8.ofString (Command.line terseGain.indentedText)) false) =
        .ok terseGain := by
  have hopen : decode terseLink "flow" = .ok terseGain := by decide +kernel
  have hfloats : ∀ x ∈ terseGain.toJson.floats, x.ReadsBack := by decide +kernel
  have hproject := (opened_text_is_project terseLink "flow" hopen hfloats).2
  exact ⟨hopen, hfloats, (hproject _ (by simp) false).1⟩

end Link

end Patchbay
