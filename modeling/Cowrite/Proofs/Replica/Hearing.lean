import Cowrite.Proofs.Replica.Grown

/-!
# Replicas that only listen

What a replica makes of an update does not depend on the walks that earlier ones have left behind
(`Replica.hear_clearWalks`), so a document that only listens is told by the updates it has heard, in
their order. Everything in it was there before, waited, or was carried by one of them
(`Replica.gathers_foldl_hear`).
-/

namespace Cowrite

namespace Replica

/-- The document once an update has been heard, walks apart. What cannot be applied changes
nothing. -/
def hear (replica : Replica) (payload : Update) : Replica :=
  match replica.apply payload with
  | .ok updated => updated.clearWalks
  | .error _ => replica.clearWalks

variable {replica : Replica}

theorem settleUpTo_clearWalks (count : Nat) (replica : Replica) :
    settleUpTo count replica.clearWalks = (settleUpTo count replica).clearWalks := by
  induction count generalizing replica with
  | zero => rfl
  | succ count ih =>
      rw [settleUpTo, settleUpTo]
      have same : nextReady replica.clearWalks.version replica.clearWalks.waiting =
          nextReady replica.version replica.waiting := rfl
      rw [same]
      cases nextReady replica.version replica.waiting with
      | none => rfl
      | some found => exact ih (({ replica with waiting := found.2 } : Replica).takeUp found.1)

theorem receive_clearWalks (replica : Replica) (operations : List Operation) :
    replica.clearWalks.receive operations = (replica.receive operations).clearWalks :=
  settleUpTo_clearWalks _ { replica with
    waiting := replica.waiting ++ operations.filter fun operation => !replica.hasSeen operation }

theorem hear_of_ok {payload : Update} {updated : Replica}
    (applied : replica.apply payload = .ok updated) :
    replica.hear payload = updated.clearWalks := by
  rw [hear, applied]

theorem hear_of_error {payload : Update} {error : ReplicaError}
    (refused : replica.apply payload = .error error) :
    replica.hear payload = replica.clearWalks := by
  rw [hear, refused]

/-- What a replica makes of an update does not depend on its walks. -/
theorem hear_clearWalks (replica : Replica) (payload : Update) :
    replica.clearWalks.hear payload = replica.hear payload := by
  cases payload with
  | empty => rfl
  | malformed => rfl
  | operations operations =>
      have cleared (updated : Replica) (walk : Walk) :
          (if walk.isEmpty then updated else { updated with walks := updated.walks ++ [walk] }
            ).clearWalks = updated.clearWalks := by
        split
        · rfl
        · rfl
      rw [hear_of_ok rfl, hear_of_ok rfl, cleared, cleared, receive_clearWalks]
      rfl

theorem gathers_hear (replica : Replica) (payload : Update) :
    replica.Gathers payload.carried (replica.hear payload) := by
  cases applied : replica.apply payload with
  | ok updated =>
      have gathers := gathers_apply applied
      rw [hear_of_ok applied]
      exact ⟨gathers.log, gathers.waiting⟩
  | error error =>
      rw [hear_of_error applied]
      exact ⟨fun _ => .inl, fun _ => .inl⟩

theorem gathers_foldl_hear (replica : Replica) (payloads : List Update) :
    replica.Gathers (payloads.flatMap Update.carried) (payloads.foldl hear replica) := by
  induction payloads generalizing replica with
  | nil => exact ⟨fun _ => .inl, fun _ => .inl⟩
  | cons payload rest ih =>
      have first := replica.gathers_hear payload
      have others := ih (replica.hear payload)
      rw [List.flatMap_cons, List.foldl_cons]
      refine ⟨?_, ?_⟩
      · intro operation present
        rw [List.mem_append]
        rcases others.log operation present with held | waits | carried
        · rcases first.log operation held with held | waits | carried
          · exact .inl held
          · exact .inr (.inl waits)
          · exact .inr (.inr (.inl carried))
        · exact .inr ((first.waiting operation waits).imp_right .inl)
        · exact .inr (.inr (.inr carried))
      · intro operation present
        rw [List.mem_append]
        rcases others.waiting operation present with waits | carried
        · exact (first.waiting operation waits).imp_right .inl
        · exact .inr (.inr carried)

end Replica

end Cowrite
