import Latchkey.Proofs.Limit.Footprint
import Latchkey.Proofs.Plugin.BuiltIn
import Latchkey.Proofs.Plugin.RateLimit
import Latchkey.Proofs.Plugin.Turns
/-!
# The built-in plugins on stores in memory

Both stores are parts of the state here, apart from each other and from the clock. Of a pipeline of
built-in plugins with distinct names, only the usage limits can touch the table of keys and only the
rate limiter the table of rates, each of them at most once and for the record that is shown. What they
reject, they reject for reasons of their own.
-/

namespace Latchkey

open Act KeyTable

variable {σ : Type}

/-- Two parts of a state that do not overlap, and a clock that is in neither. -/
structure Lens.Apart (table : Lens σ KeyTable) (rates : Lens σ (RateTable Float)) (now : σ → Instant) :
    Prop where
  table_lawful : table.Lawful
  rates_lawful : rates.Lawful
  rates_set : ∀ t s, rates.get (table.set t s) = rates.get s
  table_set : ∀ t s, table.get (rates.set t s) = table.get s
  now_set_table : ∀ t s, now (table.set t s) = now s
  now_set_rates : ∀ t s, now (rates.set t s) = now s

/-- The three plugins of the library on the two tables. -/
inductive Plugin.InMemory (table : Lens σ KeyTable) (rates : Lens σ (RateTable Float))
    (now : σ → Instant) : Plugin σ → Prop where
  | rateLimit (limits : RateLimits σ) (h : limits.store = .memory rates now) :
    InMemory table rates now (Plugin.rateLimit limits)
  | usageLimits : InMemory table rates now (Plugin.usageLimits ⟨.memory table⟩)
  | scopes : InMemory table rates now Plugin.scopes

variable {table : Lens σ KeyTable} {rates : Lens σ (RateTable Float)} {now : σ → Instant}
  {request : VerifyRequest} {r : KeyRecord}

theorem Plugin.InMemory.builtIn {p : Plugin σ} (h : p.InMemory table rates now)
    (hapart : table.Apart rates now) : p.BuiltIn table now := by
  cases h with
  | rateLimit limits h =>
      refine .rateLimit limits ?_
      rw [h]
      exact RateStore.memory_apart hapart.table_set hapart.now_set_rates
  | usageLimits => exact .usageLimits
  | scopes => exact .scopes

/-- To a view that shows nothing of the rates only a use that is spent can do something. -/
theorem Plugin.InMemory.answer_within {p : Plugin σ} (h : p.InMemory table rates now) {τ : Type}
    {view : σ → τ} {R : τ → τ → Prop} [IsPreorder τ R] (hrates : ∀ t s, view (rates.set t s) = view s)
    (hspend : ∀ id, ((KeyStore.memory table).spend id).Within view R) (hook : Hook) :
    (p.answer hook).Within view R := by
  cases hook with
  | recordLoaded request r =>
      cases h with
      | rateLimit limits h =>
          refine RateLimits.answer_within (fun _ _ _ => ?_) (fun _ _ _ _ => ?_) request r
          · rw [h]
            exact Within.bind (Within.read _) fun _ => (Keeps.onPart hrates _).within
          · rw [h]
            exact Within.bind (Within.read _) fun _ => (Keeps.onPart hrates _).within
      | usageLimits => exact UsageLimits.answer_within hspend r
      | scopes => exact Within.pure _
  | beforeCreate _ => cases h <;> exact Within.pure _
  | created _ => cases h <;> exact Within.pure _
  | beforeVerify _ => cases h <;> exact Within.pure _
  | verified _ _ => cases h <;> exact Within.pure _

/-! ### What the usage limits do to the table of keys -/

/-- One use of the record has been spent, and nothing else has changed. -/
def KeyTable.OneSpent (r : KeyRecord) (t t' : KeyTable) : Prop :=
  ∃ n, r.uses = some n ∧ 0 < n ∧ t' = t.modifyRecord r.id fun r => { r with uses := some (n - 1) }

/-- To remove the record after one of its uses has been spent is to remove the record. -/
theorem KeyTable.OneSpent.remove {r : KeyRecord} {t t' : KeyTable} (h : OneSpent r t t')
    (hr : t.records.get? r.id = some r) : (Write.remove r.id).apply t' = t.delete r.id r := by
  obtain ⟨n, -, -, rfl⟩ := h
  have hspent : (t.modifyRecord r.id fun r => { r with uses := some (n - 1) }).records.get? r.id =
      some { r with uses := some (n - 1) } := by
    simp [records_modifyRecord, hr]
  rw [Write.apply, remove_of_some hspent]
  exact delete_modifyRecord r.id _ r t

theorem UsageLimits.answer_spends (hl : table.Lawful) {s : σ}
    (hr : (table.get s).records.get? r.id = some r) :
    table.get (answer ⟨.memory table⟩ r s).2 = table.get s ∨
      OneSpent r (table.get s) (table.get (answer ⟨.memory table⟩ r s).2) := by
  cases hn : r.uses with
  | none =>
      rw [answer_of_unlimited hn]
      exact .inl rfl
  | some n =>
      by_cases hle : n ≤ 0
      · rw [answer_of_nothing_left hn hle]
        exact .inl rfl
      · have hspend := spend_left_apply hr hn (Int64.not_le.1 hle)
        right
        refine ⟨n, hn, Int64.not_le.1 hle, ?_⟩
        have hstore : ((KeyStore.memory table).spend r.id).mapError PluginError.passedOn s =
            (.ok (.spent (n - 1)),
              table.set ((table.get s).modifyRecord r.id fun r => { r with uses := some (n - 1) }) s) := by
          refine mapError_ok ?_
          change (KeyTable.spend r.id).onPart table s = _
          rw [onPart_apply, hspend]
        unfold answer
        simp only [hn, if_neg hle]
        rw [bind_ok hstore]
        exact hl.get_set _ s

/-! ### What the rate limiter does to the table of rates -/

/-- The request has been counted under the partition that it counts in and the subject of the record,
and otherwise the table has at most been pruned. -/
def RateLimits.Counts (limits : RateLimits σ) (request : VerifyRequest) (r : KeyRecord) (now : Instant)
    (t t' : RateTable Float) : Prop :=
  ∃ partition key, limits.partitionFor request = some partition ∧
    storageKey partition (limits.subject r) = .ok key ∧ RateTable.Counted now key t t'

theorem RateStore.memory_increment_apply (partition subject : String) (l : WindowLimit) (s : σ) :
    (RateStore.memory rates now).increment partition subject l s =
      (RateTable.increment partition subject l (now s)).onPart rates s :=
  bind_ok (read_apply now s)

theorem RateStore.memory_consume_apply (partition subject : String) (l : BucketLimit Float)
    (cost : Float) (s : σ) :
    (RateStore.memory rates now).consume partition subject l cost s =
      (RateTable.consume partition subject l cost (now s)).onPart rates s :=
  bind_ok (read_apply now s)

theorem RateLimits.apply_counts {limits : RateLimits σ} (hstore : limits.store = .memory rates now)
    (hl : rates.Lawful) {partition : String} (hpartition : limits.partitionFor request = some partition)
    {s : σ} (hs : now s ≤ .minuteBeforeLatest) :
    rates.get (limits.apply partition (limits.subject r) (limits.ruleFor r) s).2 = rates.get s ∨
      limits.Counts request r (now s) (rates.get s)
        (rates.get (limits.apply partition (limits.subject r) (limits.ruleFor r) s).2) := by
  have hminute := Instant.add?_minute_isSome hs
  unfold apply
  rw [hstore]
  cases limits.ruleFor r with
  | window l =>
      simp only [RateStore.memory_increment_apply, onPart_apply, hl.get_set]
      refine (RateTable.increment_counted hminute l (rates.get s)).imp_right ?_
      intro ⟨key, hkey, hcounted⟩
      exact ⟨partition, key, hpartition, hkey, hcounted⟩
  | bucket l =>
      simp only [RateStore.memory_consume_apply, onPart_apply, hl.get_set]
      refine (RateTable.consume_counted hminute l 1).imp_right ?_
      intro ⟨key, hkey, hcounted⟩
      exact ⟨partition, key, hpartition, hkey, hcounted⟩

/-- The time, and the table of rates. -/
def clockAndRates (rates : Lens σ (RateTable Float)) (now : σ → Instant) (s : σ) :
    Instant × RateTable Float :=
  (now s, rates.get s)

theorem RateLimits.answer_counts {limits : RateLimits σ} (hstore : limits.store = .memory rates now)
    (hl : rates.Lawful) (request : VerifyRequest) (r : KeyRecord) :
    (limits.answer request r).Within (clockAndRates rates now) fun u v =>
      u.1 ≤ .minuteBeforeLatest → v.2 = u.2 ∨ limits.Counts request r u.1 u.2 v.2 := by
  cases hpartition : limits.partitionFor request with
  | none =>
      intro s hs
      simp [answer, hpartition, clockAndRates]
  | some partition =>
      rw [answer_of_partition hpartition]
      apply Within.then_pure
      apply Within.mapError
      intro s hs
      exact apply_counts hstore hl hpartition hs

/-! ### Why they reject -/

/-- The reasons that the plugins of the library give. -/
def Reason.ofPlugins : List String :=
  [Reason.rateLimited, Reason.usageExceeded, Reason.insufficientScope]

theorem Reason.ne_of_ofPlugins {reason : String} (h : reason ∈ Reason.ofPlugins) :
    reason ≠ Reason.notFound ∧ reason ≠ Reason.revoked := by
  simp only [Reason.ofPlugins, List.mem_cons, List.not_mem_nil, or_false] at h
  rcases h with rfl | rfl | rfl <;> decide

/-- A decision of a plugin of the library, if it is one to reject. -/
def Decision.Known (d : Option Decision) : Prop :=
  d = none ∨ ∃ reason ∈ Reason.ofPlugins, d = some (.rejecting reason)

theorem RateLimits.answer_known (limits : RateLimits σ) (request : VerifyRequest) (r : KeyRecord) :
    (limits.answer request r).Ensures Decision.Known := by
  unfold answer
  split
  · intro s d s' hd
    cases hd
  · apply Ensures.bind
    intro result
    apply Ensures.pure
    cases result.success with
    | true => exact .inl rfl
    | false => exact .inr ⟨_, by simp [Reason.ofPlugins], rfl⟩

theorem UsageLimits.answer_known (limits : UsageLimits σ) (r : KeyRecord) :
    (limits.answer r).Ensures Decision.Known := by
  have hreject : Decision.Known (some (.rejecting Reason.usageExceeded)) :=
    .inr ⟨_, by simp [Reason.ofPlugins], rfl⟩
  unfold answer
  split
  · exact Ensures.pure (.inl rfl)
  · split
    · exact Ensures.pure hreject
    · apply Ensures.bind
      intro spent
      cases spent with
      | spent _ => exact Ensures.pure (.inl rfl)
      | unlimited => exact Ensures.pure (.inl rfl)
      | exhausted => exact Ensures.pure hreject
      | missing => exact Ensures.pure hreject

theorem Scopes.answer_known (request : VerifyRequest) (r : KeyRecord) :
    Decision.Known (Scopes.answer request r) := by
  unfold answer
  split
  · exact .inl rfl
  · exact .inr ⟨_, by simp [Reason.ofPlugins], rfl⟩

theorem Plugin.InMemory.answer_known {p : Plugin σ} (h : p.InMemory table rates now) (hook : Hook) :
    (p.answer hook).Ensures Decision.Known := by
  cases hook with
  | recordLoaded request r =>
      cases h with
      | rateLimit limits _ => exact limits.answer_known request r
      | usageLimits => exact UsageLimits.answer_known _ r
      | scopes => exact Ensures.pure (Scopes.answer_known request r)
  | beforeCreate _ => cases h <;> exact Ensures.pure (.inl rfl)
  | created _ => cases h <;> exact Ensures.pure (.inl rfl)
  | beforeVerify _ => cases h <;> exact Ensures.pure (.inl rfl)
  | verified _ _ => cases h <;> exact Ensures.pure (.inl rfl)

/-! ### What a pipeline of them does -/

namespace Pipeline

variable {ps : Pipeline σ}

theorem reason_of_rejection (hps : ∀ p ∈ ps, p.InMemory table rates now) {hook : Hook} {s s' : σ}
    {rejection : Rejection} (h : ps.run hook s = (.ok (some rejection), s')) :
    rejection.reason ∈ Reason.ofPlugins := by
  obtain ⟨⟨p, s₁⟩, hturn, hrejects⟩ := exists_turn_of_run h
  rcases hanswer : p.answer hook s₁ with ⟨e | d, s₂⟩
  · simp [Plugin.rejectionAt?, hanswer] at hrejects
  · rw [Plugin.rejectionAt?_of_ok hanswer] at hrejects
    rcases (hps p (fst_mem_of_mem_turns hturn)).answer_known hook _ _ _ hanswer with
      rfl | ⟨reason, hreason, rfl⟩
    · cases hrejects
    · cases hrejects
      exact hreason

section Run

variable (hapart : table.Apart rates now) (hps : ∀ p ∈ ps, p.InMemory table rates now)
  (hdistinct : ps.names.Nodup)

include hapart hps hdistinct

theorem table_of_shown (request : VerifyRequest) {s : σ} (hr : (table.get s).records.get? r.id = some r) :
    table.get (ps.run (.recordLoaded request r) s).2 = table.get s ∨
      OneSpent r (table.get s) (table.get (ps.run (.recordLoaded request r) s).2) := by
  have hkeeps : ∀ q ∈ ps, q.name ≠ UsageLimits.pluginName →
      (q.answer (.recordLoaded request r)).Keeps table.get := by
    intro q hq hname
    cases hps q hq with
    | rateLimit limits h =>
        have hrates : limits.store.Apart table now := by
          rw [h]
          exact RateStore.memory_apart hapart.table_set hapart.now_set_rates
        exact (RateLimits.answer_keeps hrates request r).coarser Prod.fst
    | usageLimits => exact absurd rfl hname
    | scopes => exact Within.pure _
  rcases run_of_name hdistinct hkeeps s with hsame | ⟨p, hp, hname, s₁, hs₁, hrun⟩
  · exact .inl hsame
  · rw [hrun, ← hs₁]
    rw [← hs₁] at hr
    cases hps p hp with
    | rateLimit limits h =>
        exact absurd (show RateLimits.pluginName = UsageLimits.pluginName from hname) (by decide)
    | usageLimits => exact UsageLimits.answer_spends hapart.table_lawful hr
    | scopes =>
        exact absurd (show Scopes.pluginName = UsageLimits.pluginName from hname) (by decide)

theorem rates_of_shown (request : VerifyRequest) (r : KeyRecord) {s : σ} (hs : now s ≤ .minuteBeforeLatest) :
    rates.get (ps.run (.recordLoaded request r) s).2 = rates.get s ∨
      ∃ limits, Plugin.rateLimit limits ∈ ps ∧
        limits.Counts request r (now s) (rates.get s)
          (rates.get (ps.run (.recordLoaded request r) s).2) := by
  have hkeeps : ∀ q ∈ ps, q.name ≠ RateLimits.pluginName →
      (q.answer (.recordLoaded request r)).Keeps (clockAndRates rates now) := by
    intro q hq hname
    cases hps q hq with
    | rateLimit limits h => exact absurd rfl hname
    | usageLimits =>
        refine UsageLimits.answer_within (fun id => Keeps.onPart ?_ _) r
        intro t s
        exact Prod.ext (hapart.now_set_table t s) (hapart.rates_set t s)
    | scopes => exact Within.pure _
  rcases run_of_name hdistinct hkeeps s with hsame | ⟨p, hp, hname, s₁, hs₁, hrun⟩
  · exact .inl (congrArg Prod.snd hsame)
  · have hnow : now s₁ = now s := congrArg Prod.fst hs₁
    have hrates : rates.get s₁ = rates.get s := congrArg Prod.snd hs₁
    have hend : rates.get (ps.run (.recordLoaded request r) s).2 =
        rates.get (p.answer (.recordLoaded request r) s₁).2 := congrArg Prod.snd hrun
    rw [hend]
    cases hps p hp with
    | rateLimit limits h =>
        have hcounts := RateLimits.answer_counts h hapart.rates_lawful request r s₁
        simp only [clockAndRates, hnow, hrates] at hcounts
        exact (hcounts hs).imp_right fun hcounts => ⟨limits, hp, hcounts⟩
    | usageLimits =>
        exact absurd (show UsageLimits.pluginName = RateLimits.pluginName from hname) (by decide)
    | scopes =>
        exact absurd (show Scopes.pluginName = RateLimits.pluginName from hname) (by decide)

end Run

end Pipeline

end Latchkey
