import Latchkey.Plugin.BuiltIn
import Latchkey.Proofs.Limit.Memory
import Latchkey.Proofs.Service.Frame
/-!
# The plugins that come with the service

`Plugin.BuiltIn` holds of the three plugins of the library, where the store that uses are spent in is a
table of keys and the store of rates has no part in that table or in the clock. They have nothing to
say but to loaded records. To these they answer without moving the clock, and if it shows a time at
least a minute before the end of the range of instants, they do answer.
-/

namespace Latchkey

open Act KeyTable

variable {σ : Type}

/-- Requests do not touch the table of keys or the clock, and stay in the range of instants if there
is a minute left. -/
structure RateStore.Apart (rates : RateStore σ) (table : Lens σ KeyTable) (now : σ → Instant) :
    Prop where
  increment_keeps : ∀ partition subject l,
    (rates.increment partition subject l).Keeps fun s => (table.get s, now s)
  consume_keeps : ∀ partition subject l cost,
    (rates.consume partition subject l cost).Keeps fun s => (table.get s, now s)
  increment_answers : ∀ partition subject l s, now s ≤ .minuteBeforeLatest →
    (rates.increment partition subject l).Answers s
  consume_answers : ∀ partition subject l cost s, now s ≤ .minuteBeforeLatest →
    (rates.consume partition subject l cost).Answers s

theorem RateStore.memory_apart {rates : Lens σ (RateTable Float)} {table : Lens σ KeyTable}
    {now : σ → Instant} (htable : ∀ t s, table.get (rates.set t s) = table.get s)
    (hnow : ∀ t s, now (rates.set t s) = now s) : (RateStore.memory rates now).Apart table now where
  increment_keeps _ _ _ :=
    Within.bind (Within.read _) fun _ => Keeps.onPart (fun t s => Prod.ext (htable t s) (hnow t s)) _
  consume_keeps _ _ _ _ :=
    Within.bind (Within.read _) fun _ => Keeps.onPart (fun t s => Prod.ext (htable t s) (hnow t s)) _
  increment_answers _ _ _ s h := by
    refine Answers.bind (.of_ok (read_apply now s)) fun reading s' hread => ?_
    cases hread
    exact Answers.onPart (RateTable.increment_answers (Instant.add?_minute_isSome h) _)
  consume_answers _ _ _ _ s h := by
    refine Answers.bind (.of_ok (read_apply now s)) fun reading s' hread => ?_
    cases hread
    exact Answers.onPart (RateTable.consume_answers (Instant.add?_minute_isSome h) _)

inductive Plugin.BuiltIn (table : Lens σ KeyTable) (now : σ → Instant) : Plugin σ → Prop where
  | rateLimit (limits : RateLimits σ) (h : limits.store.Apart table now) :
      BuiltIn table now (Plugin.rateLimit limits)
  | usageLimits : BuiltIn table now (Plugin.usageLimits ⟨.memory table⟩)
  | scopes : BuiltIn table now Plugin.scopes

variable {table : Lens σ KeyTable} {now : σ → Instant} {hook : Hook}

namespace RateLimits

theorem answer_within {limits : RateLimits σ} {τ : Type} {view : σ → τ} {R : τ → τ → Prop}
    [IsPreorder τ R]
    (hincrement : ∀ partition subject l, (limits.store.increment partition subject l).Within view R)
    (hconsume : ∀ partition subject l cost,
      (limits.store.consume partition subject l cost).Within view R)
    (request : VerifyRequest) (r : KeyRecord) : (limits.answer request r).Within view R := by
  unfold answer
  split
  · exact Within.fail _
  · refine Within.bind (Within.mapError _ ?_) fun _ => Within.pure _
    unfold apply
    split
    · exact hincrement _ _ _
    · exact hconsume _ _ _ _

theorem answer_keeps {limits : RateLimits σ} (h : limits.store.Apart table now)
    (request : VerifyRequest) (r : KeyRecord) :
    (limits.answer request r).Keeps fun s => (table.get s, now s) :=
  answer_within h.increment_keeps h.consume_keeps request r

theorem answer_answers {limits : RateLimits σ} (h : limits.store.Apart table now)
    (request : VerifyRequest) (r : KeyRecord) {s : σ} (hs : now s ≤ .minuteBeforeLatest) :
    (limits.answer request r).Answers s := by
  unfold answer
  split
  · exact .of_error rfl
  · refine Answers.bind (Answers.mapError _ ?_) fun _ _ _ => .of_ok rfl
    unfold apply
    split
    · exact h.increment_answers _ _ _ s hs
    · exact h.consume_answers _ _ _ _ s hs

end RateLimits

theorem KeyTable.spend_answers (id : KeyId) (t : KeyTable) : (KeyTable.spend id).Answers t := by
  refine Answers.bind (.of_ok (findById_apply id t)) fun found t' _ => ?_
  cases found with
  | none => exact .of_ok rfl
  | some r =>
      dsimp only
      split
      · exact .of_ok rfl
      · split
        · exact .of_ok rfl
        · exact .of_ok rfl

namespace UsageLimits

theorem answer_within {limits : UsageLimits σ} {τ : Type} {view : σ → τ} {R : τ → τ → Prop}
    [IsPreorder τ R] (h : ∀ id, (limits.store.spend id).Within view R) (r : KeyRecord) :
    (limits.answer r).Within view R := by
  unfold answer
  split
  · exact Within.pure _
  · split
    · exact Within.pure _
    · refine Within.bind ((h r.id).mapError _) fun spent => ?_
      cases spent with
      | spent _ => exact Within.pure _
      | unlimited => exact Within.pure _
      | exhausted => exact Within.pure _
      | missing => exact Within.pure _

theorem answer_of_unlimited {store : KeyStore σ} {r : KeyRecord} (hn : r.uses = none) (s : σ) :
    answer ⟨store⟩ r s = (.ok none, s) := by
  unfold UsageLimits.answer
  rw [hn]
  rfl

theorem answer_of_nothing_left {store : KeyStore σ} {r : KeyRecord} {n : Int64} (hn : r.uses = some n)
    (hle : n ≤ 0) (s : σ) :
    answer ⟨store⟩ r s = (.ok (some (.rejecting Reason.usageExceeded)), s) := by
  unfold UsageLimits.answer
  rw [hn]
  dsimp only
  rw [if_pos hle]
  rfl

theorem answer_answers (r : KeyRecord) (s : σ) :
    (answer ⟨.memory table⟩ r).Answers s := by
  unfold answer
  split
  · exact .of_ok rfl
  · split
    · exact .of_ok rfl
    · refine Answers.bind (Answers.mapError _ (Answers.onPart (spend_answers r.id _))) ?_
      intro spent s' _
      cases spent with
      | spent _ => exact .of_ok rfl
      | unlimited => exact .of_ok rfl
      | exhausted => exact .of_ok rfl
      | missing => exact .of_ok rfl

end UsageLimits

namespace Plugin.BuiltIn

variable {p : Plugin σ} (h : p.BuiltIn table now)

include h

theorem answer_of_ne (hhook : hook.phase ≠ .recordLoaded) : p.answer hook = pure none := by
  cases hook with
  | recordLoaded request r => exact absurd rfl hhook
  | beforeCreate _ => cases h <;> rfl
  | created _ => cases h <;> rfl
  | beforeVerify _ => cases h <;> rfl
  | verified _ _ => cases h <;> rfl

theorem answer_within {τ : Type} {view : σ → τ} {R : τ → τ → Prop} [IsPreorder τ R]
    (hview : ∀ {s s'}, table.get s = table.get s' → now s = now s' → view s = view s')
    (hspend : ∀ id, ((KeyStore.memory table).spend id).Within view R) :
    (p.answer hook).Within view R := by
  by_cases hhook : hook.phase = .recordLoaded
  · cases hook with
    | recordLoaded request r =>
        cases h with
        | rateLimit limits h =>
            refine Keeps.within fun s => ?_
            have hkept := RateLimits.answer_keeps h request r s
            exact hview (congrArg Prod.fst hkept) (congrArg Prod.snd hkept)
        | usageLimits => exact UsageLimits.answer_within hspend r
        | scopes => exact Within.pure _
    | beforeCreate _ => cases hhook
    | created _ => cases hhook
    | beforeVerify _ => cases hhook
    | verified _ _ => cases hhook
  · rw [h.answer_of_ne hhook]
    exact Within.pure _

theorem answer_answers (hook : Hook) {s : σ} (hs : now s ≤ .minuteBeforeLatest) :
    (p.answer hook).Answers s := by
  by_cases hhook : hook.phase = .recordLoaded
  · cases hook with
    | recordLoaded request r =>
        cases h with
        | rateLimit limits h => exact RateLimits.answer_answers h request r hs
        | usageLimits => exact UsageLimits.answer_answers r s
        | scopes => exact .of_ok rfl
    | beforeCreate _ => cases hhook
    | created _ => cases hhook
    | beforeVerify _ => cases hhook
    | verified _ _ => cases hhook
  · rw [h.answer_of_ne hhook]
    exact .of_ok rfl

end Plugin.BuiltIn

/-! ### Pipelines of built-in plugins -/

namespace Pipeline

variable {ps : Pipeline σ} (h : ∀ p ∈ ps, p.BuiltIn table now)

include h

theorem onlySpends_of_builtIn (hl : table.Lawful) : ps.OnlySpends table := fun p hp _ =>
  (h p hp).answer_within (fun he _ => he) (KeyStore.memory_spend_within hl)

theorem run_keeps_now (hnow : ∀ t s, now (table.set t s) = now s) (hook : Hook) :
    (ps.run hook).Keeps now :=
  run_within fun p hp => (h p hp).answer_within (fun _ he => he) fun _ => Keeps.onPart hnow _

theorem run_of_ne (hook : Hook) (hhook : hook.phase ≠ .recordLoaded) (s : σ) :
    ps.run hook s = (.ok none, s) := by
  induction ps with
  | nil => rfl
  | cons p ps ih =>
      have hanswer := (h p List.mem_cons_self).answer_of_ne hhook
      rw [(Passes.of_pure hanswer).run_eq, hanswer]
      exact ih fun q hq => h q (List.mem_cons_of_mem p hq)

theorem run_answers (hnow : ∀ t s, now (table.set t s) = now s) (hook : Hook) {s : σ}
    (hs : now s ≤ .minuteBeforeLatest) : ∃ r s', ps.run hook s = (.ok r, s') := by
  induction ps generalizing s with
  | nil => exact ⟨none, s, rfl⟩
  | cons p ps ih =>
      have hp := h p List.mem_cons_self
      obtain ⟨result, hresult⟩ : ∃ r, ((p.answer hook).attempt : Act σ Error _) s = (.ok r, _) :=
        (hp.answer_answers hook hs).attempt
      rw [run_cons, bind_ok hresult]
      cases rejection? p result with
      | some rejection => exact ⟨_, _, rfl⟩
      | none =>
          have hkept : now s = now (p.answer hook s).2 :=
            hp.answer_within (fun _ he => he) (fun _ => Keeps.onPart hnow _) s
          exact ih (fun q hq => h q (List.mem_cons_of_mem p hq)) (hkept ▸ hs)

end Pipeline

end Latchkey
