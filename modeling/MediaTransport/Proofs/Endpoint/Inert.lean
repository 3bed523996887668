import MediaTransport.Proofs.Endpoint.Fatal
import MediaTransport.Proofs.Endpoint.FetchStream

/-!
# Streams that have failed

A stream may fail at its type, in its header or at any item of it, and a decoder may have been
chosen for it by then or not.  In every case the same is left of it: a stream that has failed,
which has no bytes and no decoder to come back to.

`Endpoint.inert_of_error`: whatever happens from then on, as long as the stream neither ends
nor is reset, bytes that come on it change nothing at all, and its end does nothing but release
it.
-/

namespace MediaTransport

namespace Endpoint

variable {endpoint after : Endpoint} {id : Nat}

/-- The stream takes part in nothing.  Of all else of the endpoint nothing is lost. -/
structure Inert (endpoint : Endpoint) (id : Nat) : Prop where
  failed : endpoint.streams.get? id = some .failed
  drops : ∀ chunk, receive id chunk false endpoint = .ok [] endpoint
  ends : ∀ chunk, receive id chunk true endpoint =
    .ok [] { endpoint with streams := endpoint.streams.erase id }
  resets : ∀ code, endpoint.reset id code =
    ([], { endpoint with streams := endpoint.streams.erase id })

theorem inert_of_failed (failed : endpoint.streams.get? id = some .failed) :
    endpoint.Inert id where
  failed := failed
  drops := by
    intro chunk
    have kept : endpoint.settle id .failed false = endpoint := by
      simp [settle, Table.insert_of_get? failed]
    rw [receive_of_failed failed, kept]
  ends := fun chunk => receive_of_failed failed chunk true
  resets := by
    intro code
    rw [reset, failed]
    rfl

/-! ## As long as the stream is kept -/

/-- A stream of which nothing is kept has not failed. -/
theorem getD_eq_failed_iff :
    (endpoint.streams.get? id).getD {} = .failed ↔ endpoint.streams.get? id = some .failed := by
  cases endpoint.streams.get? id with
  | none => exact ⟨nofun, nofun⟩
  | some stream => simp

/-- No step has a stream that failed decoded again. -/
theorem failed_take (failed : endpoint.streams.get? id = some .failed) {step : Step}
    (keeps : ¬ step.Releases id) : (endpoint.take step).streams.get? id = some .failed := by
  rw [← getD_eq_failed_iff] at failed ⊢
  cases step with
  | operate operation =>
      rw [show endpoint.take (.operate operation) = _ from after_onSession _ _]
      exact failed
  | receive other chunk final =>
      by_cases atId : other = id
      · subst atId
        have unfinished : final = false := by
          rw [← Bool.not_eq_true]
          exact fun ends => keeps ⟨rfl, ends⟩
        subst unfinished
        have drops := (inert_of_failed (getD_eq_failed_iff.mp failed)).drops chunk
        rw [show endpoint.take (.receive other chunk false) = endpoint from
          EStateM.after_of_ok drops]
        exact failed
      · rw [stream_receive_other atId]
        exact failed
  | reset other code =>
      have others : other ≠ id := keeps
      rw [stream_reset, if_neg others]
      exact failed

/-- A stream that has failed stays so until a step releases it. -/
theorem failed_run (failed : endpoint.streams.get? id = some .failed) {steps : List Step}
    (keeps : ∀ step ∈ steps, ¬ step.Releases id) :
    (endpoint.run steps).streams.get? id = some .failed := by
  induction steps generalizing endpoint with
  | nil => exact failed
  | cons step later ih =>
      have next := failed_take failed (keeps step List.mem_cons_self)
      exact ih next fun other member => keeps other (List.mem_cons_of_mem step member)

/-- Wherever a stream fails it is left as failed. -/
theorem failed_of_error {chunk : Bytes} {error : SessionError}
    (refused : receive id chunk false endpoint = .error error after) :
    after.streams.get? id = some .failed := by
  obtain ⟨middle, _, rfl⟩ := receive_eq_error refused
  simp [settle]

/-- After an error that was not at its end a stream is inert, until it ends or is reset. -/
theorem inert_of_error {chunk : Bytes} {error : SessionError}
    (refused : receive id chunk false endpoint = .error error after) (steps : List Step)
    (keeps : ∀ step ∈ steps, ¬ step.Releases id) : (after.run steps).Inert id :=
  inert_of_failed (failed_run (failed_of_error refused) keeps)

/-- A subgroup stream whose first object has a status that there is not. -/
def senseless : Bytes := [0x10, 1, 0, 128, 0, 0, 2]

/-- What follows on that stream, on another one, and from the application. -/
def afterwards : List Step := [
  .receive 3 [0] false, .receive 7 [5] false, .operate (.call .connect), .reset 7 1,
  .receive 3 senseless false]

/-- A stream that has failed is not the control stream, even if it goes on like one. -/
theorem inert_senseless : ∃ after,
    receive 3 senseless false (create {}) = .error (.decode .invalidValue) after ∧
      (∀ step ∈ afterwards, ¬ step.Releases 3) ∧ (after.run afterwards).Inert 3 := by
  have refused : ∃ after,
      receive 3 senseless false (create {}) = .error (.decode .invalidValue) after := ⟨_, rfl⟩
  obtain ⟨after, refused⟩ := refused
  have keeps : ∀ step ∈ afterwards, ¬ step.Releases 3 := by
    simp [afterwards, Step.Releases]
  exact ⟨after, refused, keeps, inert_of_error refused afterwards keeps⟩

end Endpoint

end MediaTransport
