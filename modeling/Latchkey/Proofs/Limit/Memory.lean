import Latchkey.Limit.Memory
import Latchkey.Proofs.Action
import Latchkey.Proofs.Limit.Window
/-!
# Windows in a table of rates

A request under a window rule changes the window of its own storage key by one step, and every other
window it leaves alone, up to dropping it when it has ended. A partition that contains a colon has no
storage keys, and requests in it change nothing. Requests made a minute or more before the end of the
range of instants do not leave that range.
-/

namespace Latchkey

open Act

/-! ### Storage keys -/

theorem storageKey_of_colon {partition : String} (subject : String) (h : ':' ∈ partition.toList) :
    storageKey partition subject = .error (.invalidPartition partition) :=
  if_pos (List.contains_iff_mem.2 h)

theorem storageKey_eq_ok_iff {partition subject key : String} :
    storageKey partition subject = .ok key ↔
      ':' ∉ partition.toList ∧ key = partition ++ ":" ++ subject := by
  unfold storageKey
  by_cases h : ':' ∈ partition.toList
  · rw [if_pos (List.contains_iff_mem.2 h)]
    exact ⟨nofun, fun hk => absurd h hk.1⟩
  · rw [if_neg (by rwa [List.contains_iff_mem])]
    simp only [h, not_false_eq_true, true_and, Except.ok.injEq]
    exact eq_comm

/-- The first colon of a storage key ends its partition. -/
theorem storageKey_inj {p q x y : String} (hp : ':' ∉ p.toList) (hq : ':' ∉ q.toList)
    (h : p ++ ":" ++ x = q ++ ":" ++ y) : p = q ∧ x = y := by
  have hlist := congrArg String.toList h
  simp only [String.toList_append, List.append_assoc] at hlist
  have hstart : ∀ {p x : String}, ':' ∉ p.toList →
      (p.toList ++ (":".toList ++ x.toList)).takeWhile (· ≠ ':') = p.toList := by
    intro p x hp
    have hall : ∀ c ∈ p.toList, decide (c ≠ ':') = true := by
      intro c hc
      refine decide_eq_true fun he => hp ?_
      rw [← he]
      exact hc
    rw [List.takeWhile_append_of_pos hall]
    exact List.append_nil _
  have hpq := congrArg (List.takeWhile (· ≠ ':')) hlist
  rw [hstart hp, hstart hq] at hpq
  rw [hpq, List.append_cancel_left_eq, List.append_cancel_left_eq] at hlist
  exact ⟨String.toList_inj.1 hpq, String.toList_inj.1 hlist⟩

theorem subject_eq_of_storageKey {p q x y key : String} (h : storageKey p x = .ok key)
    (h' : storageKey q y = .ok key) : (p, x) = (q, y) := by
  obtain ⟨hp, rfl⟩ := storageKey_eq_ok_iff.1 h
  obtain ⟨hq, heq⟩ := storageKey_eq_ok_iff.1 h'
  obtain ⟨rfl, rfl⟩ := storageKey_inj hp hq heq
  rfl

namespace RateTable

variable {α : Type} {now : Instant} {partition subject key : String}

theorem drop_windows (now : Instant) (t : RateTable α) (key : String) :
    (t.drop now).windows.get? key = Window.live? (t.windows.get? key) now :=
  Table.get?_filter t.windows _ key

theorem refuse_within {σ τ : Type} {view : σ → τ} {R : τ → τ → Prop} [IsPreorder τ R]
    (fault : Option LimitFault) : (refuse fault : Act σ Error Unit).Within view R := by
  unfold refuse
  split
  · exact Within.fail _
  · exact Within.pure ()

/-- To go on with a storage key, if there is one. -/
theorem storageKeyOf_bind_within {σ τ β : Type} {view : σ → τ} {R : τ → τ → Prop} [IsPreorder τ R]
    {g : String → Act σ Error β}
    (hg : ∀ key, storageKey partition subject = .ok key → (g key).Within view R) :
    (storageKeyOf partition subject >>= g).Within view R := by
  unfold storageKeyOf
  cases hkey : storageKey partition subject with
  | error f => exact fun _ => refl_of _ _
  | ok key =>
      dsimp only
      rw [pure_bind]
      exact hg key hkey

/-- To drop what has ended does to a view what `R` allows, and the view does not show when this is done
next. -/
structure PrunesWithin {τ : Type} (now : Instant) (view : RateTable α → τ) (R : τ → τ → Prop) :
    Prop where
  drop : ∀ t, R (view t) (view (t.drop now))
  next : ∀ t next, view { t with nextPruneAt := next } = view t

namespace PrunesWithin

variable {τ : Type} {R : τ → τ → Prop} [IsPreorder τ R]

section Prune

variable {view : RateTable α → τ} (h : PrunesWithin now view R)

include h

theorem prune : (prune now : Act (RateTable α) Error Nat).Within view R := by
  refine Within.bind (Within.read _) fun _ => Within.bind (Within.update h.drop) fun _ =>
    Within.bind (Within.read _) fun _ => ?_
  split
  · refine Within.bind (Within.update fun t => ?_) fun _ => Within.pure _
    rw [h.next t (some _)]
    exact refl_of R _
  · exact fun _ => refl_of R _

theorem pruneIfDue : (pruneIfDue now : Act (RateTable α) Error Unit).Within view R := by
  refine Within.bind (Within.read _) fun due => ?_
  cases due with
  | false => exact Within.pure _
  | true => exact Within.bind h.prune fun _ => Within.pure _

theorem increment {l : WindowLimit}
    (hinsert : ∀ key w t, storageKey partition subject = .ok key →
      R (view t) (view { t with windows := t.windows.insert key w })) :
    (increment partition subject l now : Act (RateTable α) Error LimitResult).Within view R := by
  refine Within.bind (refuse_within _) fun _ => storageKeyOf_bind_within fun key hkey => ?_
  exact Within.bind h.pruneIfDue fun _ => Within.bind (Within.read _) fun _ =>
    Within.bind (Within.update fun t => hinsert key _ t hkey) fun _ => Within.pure _

end Prune

theorem consume {view : RateTable Float → τ} (h : PrunesWithin now view R) {l : BucketLimit Float}
    {cost : Float}
    (hinsert : ∀ key b t, storageKey partition subject = .ok key →
      R (view t) (view { t with buckets := t.buckets.insert key b })) :
    (consume partition subject l cost now).Within view R := by
  refine Within.bind (refuse_within _) fun _ => Within.bind (refuse_within _) fun _ =>
    storageKeyOf_bind_within fun key hkey => ?_
  exact Within.bind h.pruneIfDue fun _ => Within.bind (Within.read _) fun _ =>
    Within.bind (Within.update fun t => hinsert key _ t hkey) fun _ => Within.pure _

end PrunesWithin

theorem windows_prunesWithin (now : Instant) (key : String) :
    PrunesWithin now (fun t : RateTable α => t.windows.get? key) (Window.LeftAlone now) where
  drop t := by
    rw [drop_windows]
    exact Window.leftAlone_live?
  next _ _ := rfl

/-- Pruning fails only for want of a next time for it. -/
theorem pruneIfDue_cases (now : Instant) (t : RateTable α) :
    (∃ t', (pruneIfDue now : Act (RateTable α) Error Unit) t = (.ok (), t')) ∨
      now.add? pruneInterval = none ∧
        ∃ t', (pruneIfDue now : Act (RateTable α) Error Unit) t = (.error .outOfTime, t') := by
  unfold pruneIfDue
  rw [bind_ok (read_apply _ _)]
  cases isPruneDue now t with
  | false => exact .inl ⟨t, rfl⟩
  | true =>
      unfold prune
      cases hnext : now.add? pruneInterval with
      | some next => exact .inl ⟨_, rfl⟩
      | none => exact .inr ⟨rfl, _, rfl⟩

theorem pruneIfDue_ok (h : (now.add? pruneInterval).isSome) (t : RateTable α) :
    ∃ t', (pruneIfDue now : Act (RateTable α) Error Unit) t = (.ok (), t') := by
  rcases pruneIfDue_cases now t with hok | ⟨hnone, -⟩
  · exact hok
  · rw [hnone] at h
    cases h

theorem pruneIfDue_answers (h : (now.add? pruneInterval).isSome) (t : RateTable α) :
    (pruneIfDue now : Act (RateTable α) Error Unit).Answers t := by
  obtain ⟨t', ht'⟩ := pruneIfDue_ok h t
  exact .of_ok ht'

/-! ### Requests -/

theorem increment_of_fault {f : LimitFault} (l : WindowLimit) (now : Instant) (t : RateTable α)
    (h : storageKey partition subject = .error f) :
    ∃ e, increment partition subject l now t = (.error (.error e), t) := by
  unfold increment refuse storageKeyOf
  rw [h]
  cases l.fault? with
  | some f => exact ⟨_, rfl⟩
  | none => exact ⟨_, rfl⟩

theorem consume_of_fault {f : LimitFault} (l : BucketLimit Float) (cost : Float) (now : Instant)
    (t : RateTable Float) (h : storageKey partition subject = .error f) :
    ∃ e, consume partition subject l cost now t = (.error (.error e), t) := by
  unfold consume refuse consumeFit storageKeyOf
  rw [h]
  cases l.fault? with
  | some f => exact ⟨_, rfl⟩
  | none =>
      cases costFault? cost with
      | some f => exact ⟨_, rfl⟩
      | none => exact ⟨_, rfl⟩

theorem check_apply {l : WindowLimit} (hfit : l.fault? = none)
    (hkey : storageKey partition subject = .ok key) (t : RateTable α) :
    check partition subject l now t = (.ok (Window.peek (t.windows.get? key) now l), t) := by
  unfold check refuse storageKeyOf
  rw [hfit, hkey]
  rfl

theorem reset_apply (hkey : storageKey partition subject = .ok key) (t : RateTable α) :
    reset partition subject t =
      (.ok (), { t with windows := t.windows.erase key, buckets := t.buckets.erase key }) := by
  unfold reset storageKeyOf
  rw [hkey]
  rfl

theorem increment_apply {l : WindowLimit} {t t₁ : RateTable α} (hfit : l.fault? = none)
    (hkey : storageKey partition subject = .ok key)
    (hprune : (pruneIfDue now : Act (RateTable α) Error Unit) t = (.ok (), t₁)) :
    let next := Window.next (t₁.windows.get? key) now l
    increment partition subject l now t =
      (.ok (next.outcome l), { t₁ with windows := t₁.windows.insert key next }) := by
  unfold increment refuse storageKeyOf
  rw [hfit, hkey]
  exact bind_ok hprune

theorem increment_of_error {l : WindowLimit} {e : Failure Error} {t t₁ : RateTable α}
    (hfit : l.fault? = none) (hkey : storageKey partition subject = .ok key)
    (hprune : (pruneIfDue now : Act (RateTable α) Error Unit) t = (.error e, t₁)) :
    increment partition subject l now t = (.error e, t₁) := by
  unfold increment refuse storageKeyOf
  rw [hfit, hkey]
  dsimp only
  rw [pure_bind, pure_bind, bind_error hprune]

theorem consumeFit_apply [Amount α] {l : BucketLimit α} {cost : α} {t t₁ : RateTable α}
    (hkey : storageKey partition subject = .ok key)
    (hprune : (pruneIfDue now : Act (RateTable α) Error Unit) t = (.ok (), t₁)) :
    let next := Bucket.consume ((t₁.buckets.get? key).map (·.bucket)) now l cost
    consumeFit partition subject l cost now t =
      (.ok next.2, { t₁ with buckets := t₁.buckets.insert key ⟨next.1, next.1.fullAt l⟩ }) := by
  unfold consumeFit storageKeyOf
  rw [hkey]
  dsimp only
  rw [pure_bind, bind_ok hprune]
  rfl

theorem consume_of_fit {l : BucketLimit Float} {cost : Float} (hfit : l.fault? = none)
    (hcost : costFault? cost = none) :
    consume partition subject l cost now = consumeFit partition subject l cost now := by
  unfold consume refuse
  rw [hfit, hcost]
  rfl

theorem consume_apply {l : BucketLimit Float} {cost : Float} {t t₁ : RateTable Float}
    (hfit : l.fault? = none) (hcost : costFault? cost = none)
    (hkey : storageKey partition subject = .ok key)
    (hprune : (pruneIfDue now : Act (RateTable Float) Error Unit) t = (.ok (), t₁)) :
    let next := Bucket.consume ((t₁.buckets.get? key).map (·.bucket)) now l cost
    consume partition subject l cost now t =
      (.ok next.2, { t₁ with buckets := t₁.buckets.insert key ⟨next.1, next.1.fullAt l⟩ }) := by
  rw [consume_of_fit hfit hcost]
  exact consumeFit_apply hkey hprune

theorem consume_of_error {l : BucketLimit Float} {cost : Float} {e : Failure Error}
    {t t₁ : RateTable Float} (hfit : l.fault? = none) (hcost : costFault? cost = none)
    (hkey : storageKey partition subject = .ok key)
    (hprune : (pruneIfDue now : Act (RateTable Float) Error Unit) t = (.error e, t₁)) :
    consume partition subject l cost now t = (.error e, t₁) := by
  rw [consume_of_fit hfit hcost]
  unfold consumeFit storageKeyOf
  rw [hkey]
  dsimp only
  rw [pure_bind, bind_error hprune]

theorem check_within {τ : Type} {view : RateTable α → τ} {R : τ → τ → Prop} [IsPreorder τ R]
    {l : WindowLimit} : (check partition subject l now).Within view R :=
  Within.bind (refuse_within _) fun _ => storageKeyOf_bind_within fun _ _ =>
    Within.bind (Within.read _) fun _ => Within.pure _

/-- A request leaves the windows of other storage keys alone. -/
theorem increment_within {l : WindowLimit} (h : storageKey partition subject ≠ .ok key) :
    (increment partition subject l now : Act (RateTable α) Error LimitResult).Within
      (fun t => t.windows.get? key) (Window.LeftAlone now) := by
  refine (windows_prunesWithin now key).increment fun key' w t hkey => ?_
  have hne : key' ≠ key := by
    rintro rfl
    exact h hkey
  rw [Table.get?_insert, if_neg hne]
  exact refl_of _ _

theorem consume_within {l : BucketLimit Float} {cost : Float} :
    (consume partition subject l cost now).Within (fun t => t.windows.get? key)
      (Window.LeftAlone now) :=
  (windows_prunesWithin now key).consume fun _ _ _ _ => refl_of _ _

/-- A request counts in the window of its own storage key and answers how it stands, unless the table
has to be pruned at a time that has no next time for it. -/
theorem increment_cases (now : Instant) {l : WindowLimit} (hfit : l.fault? = none)
    (hkey : storageKey partition subject = .ok key) (t : RateTable α) :
    (∃ t', increment partition subject l now t = (.error .outOfTime, t') ∧
        Window.LeftAlone now (t.windows.get? key) (t'.windows.get? key)) ∨
      ∃ t', increment partition subject l now t =
          (.ok ((Window.next (t.windows.get? key) now l).outcome l), t') ∧
        t'.windows.get? key = some (Window.next (t.windows.get? key) now l) := by
  have hprune := (windows_prunesWithin now key).pruneIfDue t
  rcases pruneIfDue_cases now t with ⟨t₁, ht₁⟩ | ⟨-, t₁, ht₁⟩
  · right
    rw [ht₁] at hprune
    have hnext : Window.next (t₁.windows.get? key) now l = Window.next (t.windows.get? key) now l := by
      unfold Window.next
      rw [hprune.live?_eq (Instant.le_refl now)]
    rw [increment_apply hfit hkey ht₁, hnext]
    exact ⟨_, rfl, (Table.get?_insert ..).trans (if_pos rfl)⟩
  · left
    rw [ht₁] at hprune
    exact ⟨t₁, increment_of_error hfit hkey ht₁, hprune⟩

theorem refuse_answers {σ : Type} (fault : Option LimitFault) (s : σ) :
    (refuse fault : Act σ Error Unit).Answers s := by
  cases fault with
  | some f => exact .of_error rfl
  | none => exact .of_ok rfl

theorem storageKeyOf_answers {σ : Type} (partition subject : String) (s : σ) :
    (storageKeyOf partition subject : Act σ Error String).Answers s := by
  unfold storageKeyOf
  cases storageKey partition subject with
  | error f => exact .of_error rfl
  | ok key => exact .of_ok rfl

section Answers

variable (h : (now.add? pruneInterval).isSome)

include h

theorem increment_answers {l : WindowLimit} (t : RateTable α) :
    (increment partition subject l now).Answers t := by
  refine Answers.bind (refuse_answers _ _) fun _ t _ => ?_
  refine Answers.bind (storageKeyOf_answers _ _ _) fun key t _ => ?_
  refine Answers.bind (pruneIfDue_answers h _) fun _ t _ => ?_
  exact .of_ok rfl

theorem consume_answers {l : BucketLimit Float} {cost : Float} (t : RateTable Float) :
    (consume partition subject l cost now).Answers t := by
  refine Answers.bind (refuse_answers _ _) fun _ t _ => ?_
  refine Answers.bind (refuse_answers _ _) fun _ t _ => ?_
  refine Answers.bind (storageKeyOf_answers _ _ _) fun key t _ => ?_
  refine Answers.bind (pruneIfDue_answers h _) fun _ t _ => ?_
  exact .of_ok rfl

end Answers

end RateTable

end Latchkey
