import Gridwork.Http.Server
import Gridwork.Proofs.Build.Shown
import Gridwork.Proofs.Validation.Shown

/-!
# Which answers can be sent

An answer in JSON is sent only if all of its texts can be encoded. Texts of a request come back in
it: in the messages of violations, in the wording of an error of building and in its field. So a
verdict can be sent if its messages can (`Http.Sendable`), and everything that the service answers a
request with can be sent if every text of the request can be encoded (`Http.sendable_check`,
`Http.Response.isEncodable_ofResult`).
-/

namespace Gridwork.Http

/-- The response to the result of a generation. -/
def Response.ofResult : Except ServiceError Generated → Response
  | .ok g => .ofGenerated g
  | .error e => .ofError e

/-! ### Verdicts -/

theorem Response.isEncodable_texts_iff {messages : List Text} :
    (texts messages).isEncodable = true ↔ ∀ m ∈ messages, m.isEncodable = true := by
  rw [texts, Json.isEncodable_arr, Json.itemsEncodable_iff]
  simp

/-- Violations whose messages can all be sent. -/
def Sendable (found : List Violation) : Prop := ∀ v ∈ found, v.message.isEncodable = true

instance : DecidablePred Sendable := fun found =>
  inferInstanceAs (Decidable (∀ v ∈ found, v.message.isEncodable = true))

theorem sendable_iff {found : List Violation} :
    Sendable found ↔ (Response.texts (found.map Violation.message)).isEncodable = true := by
  rw [Response.isEncodable_texts_iff, List.forall_mem_map]
  exact Iff.rfl

/-- The result of a validation can be sent if its messages can. -/
theorem isEncodable_ofCheck_iff {found : List Violation} :
    (Response.ofCheck found).isEncodable = true ↔ Sendable found := by
  have hkeys : Text.isEncodable "valid" = true ∧ Text.isEncodable "errors" = true := by decide
  rw [sendable_iff, Response.ofCheck, Response.ofJson, Response.isEncodable]
  simp [Json.entriesEncodable, Json.isEncodable, hkeys]

/-- So can a refusal for violations. -/
theorem isEncodable_invalid_iff {found : List Violation} :
    (Response.invalid found).isEncodable = true ↔ Sendable found := by
  have hkeys : Text.isEncodable "detail" = true ∧ Text.isEncodable "errors" = true ∧
      Text.isEncodable "Invalid spreadsheet request" = true := by decide
  rw [sendable_iff, Response.invalid, Response.ofJson, Response.isEncodable]
  simp [Json.entriesEncodable, hkeys]

/-! ### Requests that can be encoded -/

variable {settings : Settings} {request : Json}

/-- **The verdict on a request that can be encoded can be sent.** -/
theorem sendable_check (h : request.isEncodable = true) (settings : Settings) :
    Sendable (Service.check settings request) := by
  intro found hfound
  have hP := Json.hereditary_isEncodable
  exact (shows_of_violation hP (hP.sanitizeFormulas request h) hfound).message hP

theorem Response.isEncodable_internalError : internalError.isEncodable = true := by decide

/-- What can be shown of an error of building can be sent. -/
theorem Response.isEncodable_notBuilt {e : BuildError}
    (h : e.Shows (·.isEncodable = true) (·.isEncodable = true)) :
    (notBuilt e).isEncodable = true := by
  have hP := Json.hereditary_isEncodable
  have hkeys : Text.isEncodable "detail" = true ∧ Text.isEncodable "field" = true := by decide
  have hfield : ((e.field.map Json.str).getD .null).isEncodable = true := by
    cases hname : e.field with
    | none => rfl
    | some name => exact hP.str_iff.mpr (h.field hP hname)
  rw [notBuilt]
  split
  · next message hmessage =>
    have hdetail := h.message hP hmessage
    rw [ofJson, isEncodable]
    simp [Json.entriesEncodable, hkeys, hdetail, hfield]
  · exact isEncodable_internalError

/-- A failure to store a workbook shows nothing of the request. -/
theorem Response.isEncodable_store (e : StoreFailure) :
    (ofError (.store e)).isEncodable = true := by
  have hnotStored : notStored.isEncodable = true := by decide
  cases e with
  | storage e => exact hnotStored
  | nulInPath => exact isEncodable_internalError

/-- **The result of a generation can be sent if the request can be encoded.** -/
theorem Response.isEncodable_ofResult (h : request.isEncodable = true) (settings : Settings)
    (files : FileSystem FileContent) (persist : Option Bool) :
    (ofResult (Service.generate settings files request persist).result).isEncodable = true := by
  cases hprepared : (Service.prepare settings request).outcome with
  | ok d =>
    rw [Service.generate_of_ok hprepared]
    split
    · unfold Service.deliverKept
      dsimp only
      split
      · exact isEncodable_store _
      · rfl
    · rfl
  | error e =>
    rw [(Service.generate_of_error hprepared files persist).1]
    cases e with
    | invalid found =>
      have hends := Service.prepare_cases settings request
      rw [hprepared] at hends
      cases hends
      exact isEncodable_invalid_iff.mpr (sendable_check h settings)
    | save e => exact isEncodable_internalError
    | store e => exact isEncodable_store e
    | failure f =>
      cases f with
      | build b =>
        exact isEncodable_notBuilt
          (Service.shows_of_prepare Json.hereditary_isEncodable h hprepared)
      | rowOutOfRange | untitled => exact isEncodable_internalError

end Gridwork.Http
