/-
  Subject:   Messages that make, change and delete queues, and what their errors leave.

  Results:   `queue_operations`: `num_queues` counts, and errors change nothing.
-/
import TcpPath.OpenFlow.Control

namespace TcpPath.Udatapath

open Util

variable {Mt P : Type}

section Colas

variable {s : Puertos} {p p' : Puerto} {queueId rate now : Nat}

theorem Puerto.portAddQueue_ne (h : p.portAddQueue queueId rate now = some p') : p' ≠ p := by
  unfold portAddQueue at h
  split at h
  · cases h
  · split at h
    · rename_i hi
      split at h
      · cases h
      · rename_i hno
        cases h
        intro heq
        have hq := congrArg (fun x : Puerto => (x.queues ⟨queueId, hi⟩).isSome) heq
        simp only [newQueue, Function.update_self, Option.isSome_some] at hq
        exact hno hq.symm
    · cases h

theorem Puerto.Cuadra.portAddQueue_isSome (h : p.Cuadra) (queueId rate now : Nat) :
    (p.portAddQueue queueId rate now).isSome = true ↔
      queueId < p.maxQueues ∧ p.dpPortsLookupQueue queueId = none := by
  have hmax := h.maxQueues
  unfold Puerto.portAddQueue Puerto.dpPortsLookupQueue
  by_cases hq : queueId < p.maxQueues
  · have hlt : queueId < netdevMaxQueues := by omega
    rw [if_neg (by omega), dif_pos hlt, if_pos hq, dif_pos hlt]
    cases p.queues ⟨queueId, hlt⟩ <;> simp [hq]
  · rw [if_pos (by omega)]
    simp [hq]

/-- The message is for a queue that its port may have and has not got. -/
def Puertos.ColaNueva (s : Puertos) (msg : QueueMsg) : Prop :=
  ∃ ptr p, s.enUso msg.portId = some (ptr, p) ∧ msg.queueId < p.maxQueues ∧
    p.dpPortsLookupQueue msg.queueId = none

theorem Puertos.Sana.queueModify_error (h : s.Sana) {msg : QueueMsg} {hecho : Bool} {e : OflErr}
    (he : (s.dpPortsHandleQueueModify msg hecho now).2 = some e) :
    (s.dpPortsHandleQueueModify msg hecho now).1 = s ↔ ¬s.ColaNueva msg := by
  unfold Puertos.dpPortsHandleQueueModify at he ⊢
  cases huso : s.enUso msg.portId with
  | none =>
    refine ⟨fun _ => ?_, fun _ => rfl⟩
    rintro ⟨ptr, p, hp, _⟩
    cases huso.symm.trans hp
  | some x =>
    obtain ⟨ptr, p⟩ := x
    have hget := (enUso_eq_some huso).2
    have hnueva : s.ColaNueva msg ↔
        msg.queueId < p.maxQueues ∧ p.dpPortsLookupQueue msg.queueId = none := by
      constructor
      · rintro ⟨ptr', p', hp', hnew⟩
        cases huso.symm.trans hp'
        exact hnew
      · exact fun hnew => ⟨ptr, p, huso, hnew⟩
    rw [huso] at he
    rw [hnueva]
    dsimp only at he ⊢
    cases hq : p.dpPortsLookupQueue msg.queueId with
    | some y =>
      rw [hq] at he
      cases hecho with
      | true => cases he
      | false => simp
    | none =>
      rw [hq] at he
      have hsome := (h.colas ptr p hget).portAddQueue_isSome msg.queueId msg.rate now
      rw [hq] at hsome
      cases hadd : p.portAddQueue msg.queueId msg.rate now with
      | none =>
        rw [hadd] at hsome
        exact ⟨fun _ hnew => absurd (hsome.mpr hnew) (by simp), fun _ => rfl⟩
      | some p' =>
        rw [hadd] at hsome
        refine ⟨fun heq => ?_, fun hno => absurd (hsome.mp rfl) hno⟩
        have hp' := congrArg (fun s : Puertos => s.get ptr) heq
        simp only [get_con, if_true, hget] at hp'
        exact absurd (Option.some.inj hp') (Puerto.portAddQueue_ne hadd)

theorem Puertos.queueDelete_error {msg : QueueMsg} {e : OflErr}
    (he : (s.dpPortsHandleQueueDelete msg).2 = some e) :
    (s.dpPortsHandleQueueDelete msg).1 = s := by
  unfold Puertos.dpPortsHandleQueueDelete at he ⊢
  split
  · rfl
  · rename_i huso
    rw [huso] at he
    dsimp only at he ⊢
    split
    · rename_i hq
      rw [hq] at he
      cases he
    · rfl

end Colas

/-- **Queue operations.** `num_queues` is the number of queues in use of each port. A message to
delete a queue that is answered with an error changes nothing; one to modify it iff it is not for a
new one. -/
theorem queue_operations {c : Conmutador Mt P} {s : Switch Mt} {bandsNum : UInt64}
    {maxQueues : Nat} {resto : Fin pipelineTables → Bytes} {dpDesc : Bytes} {now : Nat}
    (hrun : Run (Switch.paso c) (fun _ _ => True)
      (.create bandsNum maxQueues resto dpDesc now) s) :
    (∀ ptr p, s.puertos.get ptr = some p → p.numQueues.toNat =
      (List.finRange netdevMaxQueues).countP fun i => (p.queues i).isSome) ∧
    (∀ msg e, (s.puertos.dpPortsHandleQueueDelete msg).2 = some e →
      (s.puertos.dpPortsHandleQueueDelete msg).1 = s.puertos) ∧
    ∀ msg hecho t e, (s.puertos.dpPortsHandleQueueModify msg hecho t).2 = some e →
      ((s.puertos.dpPortsHandleQueueModify msg hecho t).1 = s.puertos ↔
        ¬s.puertos.ColaNueva msg) := by
  have hsana : s.puertos.Sana := (Switch.bien_run hrun).puertos
  exact ⟨fun ptr p hp => (hsana.colas ptr p hp).numQueues, fun _ _ => Puertos.queueDelete_error,
    fun _ _ _ _ => hsana.queueModify_error⟩

theorem queue_operations_sinPuerto :
    (Switch.encendido.puertos.dpPortsHandleQueueDelete ⟨1, 0, 0⟩).1 =
      Switch.encendido.puertos := by
  have hrun : Run (Switch.paso sinCampos) (fun _ _ => True) .encendido .encendido := .refl
  exact (queue_operations hrun).2.1 ⟨1, 0, 0⟩ (queueOpFailed 0) rfl

/-- The device refuses the class of a new queue: an error, and the port has one queue more. -/
theorem queue_operations_fails : ∃ s : Switch Unit,
    Run (Switch.paso sinCampos) (fun _ _ => True) .encendido s ∧
    (s.puertos.dpPortsHandleQueueModify ⟨1, 0, 10⟩ false 0).2 = some (queueOpFailed 1) ∧
    (s.puertos.get (.num 1)).map (·.numQueues) = some 0 ∧
    ((s.puertos.dpPortsHandleQueueModify ⟨1, 0, 10⟩ false 0).1.get (.num 1)).map (·.numQueues) =
      some 1 :=
  Run.exists_exec _ _ [.addPort (some 5) 0] _ _ (by decide)

end TcpPath.Udatapath
