import Latchkey.Proofs.Limit.Refill
import Latchkey.Proofs.Limit.Request
/-!
# When the dropping of buckets shows

A bucket is dropped when it has been full for the limit it was last asked under. What comes next may be
another limit, and even under the same one the tokens that have flowed in by then may have been rounded
to less than the capacity. So all goes on as if nothing was ever dropped just if each request that comes
after that time would have the same from a bucket not seen before.
-/

namespace Latchkey

namespace StoredBucket

variable {α : Type} {b b' : Option (StoredBucket α)} {now later : Instant}

/-- The bucket, if there is one and it was not full by `now`. -/
def live? (b : Option (StoredBucket α)) (now : Instant) : Option (StoredBucket α) :=
  b.filter fun b => now < b.fullAt

/-- What may become of a bucket by `now` without a request for its tokens. -/
def LeftAlone (now : Instant) (b b' : Option (StoredBucket α)) : Prop :=
  b' = b ∨ b' = none ∧ live? b now = none

theorem live?_some (v : StoredBucket α) :
    live? (some v) now = if v.fullAt ≤ now then none else some v := by
  unfold live?
  rw [Option.filter_some]
  by_cases h : v.fullAt ≤ now
  · rw [if_pos h, decide_eq_false (Instant.not_lt.2 h)]
    rfl
  · rw [if_neg h, decide_eq_true (Instant.not_le.1 h)]
    rfl

theorem leftAlone_live? : LeftAlone now b (live? b now) := by
  cases h : live? b now with
  | none => exact .inr ⟨rfl, h⟩
  | some v => exact .inl (Option.filter_eq_some_iff.1 h).1.symm

instance (now : Instant) : IsPreorder (Option (StoredBucket α)) (LeftAlone now) where
  refl _ := .inl rfl
  trans b b' b'' h h' := by
    rcases h with rfl | ⟨rfl, hb⟩
    · exact h'
    · rcases h' with rfl | ⟨rfl, -⟩
      · exact .inr ⟨rfl, hb⟩
      · exact .inr ⟨rfl, hb⟩

theorem LeftAlone.mono (h : LeftAlone now b b') (hlater : now ≤ later) : LeftAlone later b b' := by
  rcases h with rfl | ⟨rfl, hb⟩
  · exact .inl rfl
  · refine .inr ⟨rfl, Option.filter_eq_none_iff.2 fun v hv hlive => ?_⟩
    refine Option.filter_eq_none_iff.1 hb v hv (decide_eq_true ?_)
    exact Instant.lt_of_le_of_lt hlater (of_decide_eq_true hlive)

theorem live?_live? : live? (live? b now) now = live? b now := by
  unfold live?
  rw [Option.filter_filter]
  simp only [Bool.and_self]

theorem LeftAlone.eq_live? (h : LeftAlone now (live? b now) b') : b' = live? b now := by
  rcases h with rfl | ⟨rfl, hlive⟩
  · rfl
  · rw [← hlive, live?_live?]

end StoredBucket

namespace RateTable

open Act StoredBucket

/-- What is asked about a bucket. -/
inductive BucketCall where
  | consume (l : BucketLimit Float) (cost : Float)
  | reset

/-- What a request asks about the bucket of its subject. -/
def Request.bucketCall? : Request → Option BucketCall
  | consume _ _ l cost => some (.consume l cost)
  | reset _ _ => some .reset
  | _ => none

namespace BucketCall

/-- What is stored of a bucket that has been charged, and the answer. -/
def charged (l : BucketLimit Float) (x : Bucket Float × LimitResult) :
    Option (StoredBucket Float) × Reply :=
  (some ⟨x.1, x.1.fullAt l⟩, .result x.2)

theorem charged_inj {l : BucketLimit Float} {x y : Bucket Float × LimitResult} :
    charged l x = charged l y ↔ x = y := by
  refine ⟨fun h => ?_, congrArg (charged l)⟩
  obtain ⟨hstored, hreply⟩ := Prod.ext_iff.1 h
  injection hstored with hstored
  injection hstored with hbucket
  injection hreply with hanswer
  exact Prod.ext hbucket hanswer

def step (now : Instant) (b : Option (StoredBucket Float)) :
    BucketCall → Option (StoredBucket Float) × Reply
  | consume l cost => charged l (Bucket.consume (b.map (·.bucket)) now l cost)
  | reset => (none, .done)

end BucketCall

/-- The accepted requests about the bucket of a subject. -/
def bucketThread (partition subject : String) : Thread BucketCall (Option (StoredBucket Float)) where
  own q := if q.refusal? = none ∧ q.subject? = some (partition, subject) then q.bucketCall? else none
  step now b c := c.step now b

/-- What a request has answered, and the bucket of the subject after it. -/
def seen (partition subject : String) (e : Entry) :
    Except (Failure Error) Reply × Option (StoredBucket Float) :=
  (e.1, e.2.buckets.get? (partition ++ ":" ++ subject))

/-- A request that meets a bucket which counts as full gets what one not seen before would give it. -/
def Recovers (now : Instant) : Option (StoredBucket Float) → BucketCall → Prop
  | some b, .consume l cost =>
    b.fullAt ≤ now → Bucket.consume (some b.bucket) now l cost = Bucket.consume none now l cost
  | _, _ => True

theorem recovers_iff {now : Instant} {b : Option (StoredBucket Float)} {c : BucketCall} :
    Recovers now b c ↔ c.step now (live? b now) = c.step now b := by
  cases b with
  | none => exact iff_of_true (by cases c <;> trivial) rfl
  | some b =>
      cases c with
      | reset => exact iff_of_true trivial rfl
      | consume l cost =>
          rw [live?_some]
          by_cases hfull : b.fullAt ≤ now
          · rw [if_pos hfull]
            calc Recovers now (some b) (.consume l cost)
              _ ↔ Bucket.consume (some b.bucket) now l cost = Bucket.consume none now l cost :=
                  forall_prop_of_true hfull
              _ ↔ Bucket.consume none now l cost = Bucket.consume (some b.bucket) now l cost := eq_comm
              _ ↔ _ := BucketCall.charged_inj.symm
          · rw [if_neg hfull]
            exact iff_of_true (fun h => absurd h hfull) rfl

variable {partition subject key : String} {now : Instant}

theorem drop_buckets {α : Type} (now : Instant) (t : RateTable α) (key : String) :
    (t.drop now).buckets.get? key = live? (t.buckets.get? key) now :=
  Table.get?_filter t.buckets _ key

theorem buckets_prunesWithin {α : Type} (now : Instant) (key : String) :
    PrunesWithin now (fun t : RateTable α => t.buckets.get? key) (LeftAlone now) where
  drop t := by
    rw [drop_buckets]
    exact leftAlone_live?
  next _ _ := rfl

/-- A request that is not about a bucket leaves it alone. -/
theorem act_leaves_bucket {q : Request} (hkey : storageKey partition subject = .ok key)
    (hown : (bucketThread partition subject).own q = none) :
    (q.act now).Within (fun t => t.buckets.get? key) (LeftAlone now) := by
  refine Request.act_within_of_other (buckets_prunesWithin now key) hkey hown
    fun hother t t' hwrites => ?_
  cases hwrites with
  | window w hkey' => exact refl_of _ _
  | bucket b hkey' =>
      have hne := hother rfl nofun hkey'
      dsimp only
      rw [Table.get?_insert, if_neg hne]
      exact refl_of _ _
  | reset hkey' =>
      have hne := hother rfl nofun hkey'
      dsimp only
      rw [Table.get?_erase, if_neg hne]
      exact refl_of _ _

theorem purge_buckets (now : Instant) (t : RateTable Float) (key : String) :
    (Request.purge.act now t).2.buckets.get? key = live? (t.buckets.get? key) now := by
  rw [← drop_buckets]
  unfold Request.act prune
  cases now.add? pruneInterval with
  | some next => rfl
  | none => rfl

theorem bucketThread_own_iff {q : Request} {c : BucketCall} :
    (bucketThread partition subject).own q = some c ↔
      q.refusal? = none ∧ q.subject? = some (partition, subject) ∧ q.bucketCall? = some c := by
  unfold bucketThread
  dsimp only
  rw [Option.ite_none_right_eq_some, and_assoc]

/-- A request for tokens charges the bucket that its pruning leaves. -/
theorem act_consume {l : BucketLimit Float} {cost : Float} (hfit : l.fault? = none)
    (hcost : costFault? cost = none) (hkey : storageKey partition subject = .ok key)
    (hnow : now ≤ .minuteBeforeLatest) (t : RateTable Float) :
    ∃ b, LeftAlone now (t.buckets.get? key) b ∧ ∃ t',
      (Request.consume partition subject l cost).act now t =
        (.ok ((BucketCall.consume l cost).step now b).2, t') ∧
      t'.buckets.get? key = ((BucketCall.consume l cost).step now b).1 := by
  obtain ⟨t₁, ht₁⟩ := pruneIfDue_ok (Instant.add?_minute_isSome hnow) t
  have hprune := (buckets_prunesWithin now key).pruneIfDue t
  rw [ht₁] at hprune
  have hconsume := consume_apply hfit hcost hkey ht₁
  exact ⟨_, hprune, _, bind_ok hconsume, (Table.get?_insert ..).trans (if_pos rfl)⟩

/-- A request about a bucket takes a step from what its pruning leaves of it. -/
theorem bucketThread_act {q : Request} {c : BucketCall}
    (hown : (bucketThread partition subject).own q = some c) (hnow : now ≤ .minuteBeforeLatest)
    (t : RateTable Float) :
    storageKey partition subject = .ok (partition ++ ":" ++ subject) ∧
      ∃ b, LeftAlone now (t.buckets.get? (partition ++ ":" ++ subject)) b ∧
        seen partition subject (q.act now t) = (.ok (c.step now b).2, (c.step now b).1) := by
  obtain ⟨hrefusal, hsubject, hcall⟩ := bucketThread_own_iff.1 hown
  cases q with
  | consume p x l cost =>
      cases hsubject
      cases hcall
      obtain ⟨hfit, hrest⟩ := Option.or_eq_none_iff.1 hrefusal
      obtain ⟨hcost, hfree⟩ := Option.or_eq_none_iff.1 hrest
      have hkey := Request.keyFault?_eq_none_iff.1 hfree
      obtain ⟨b, hb, t', hact, hafter⟩ := act_consume hfit hcost hkey hnow t
      refine ⟨hkey, b, hb, ?_⟩
      unfold seen
      rw [hact, hafter]
  | reset p x =>
      cases hsubject
      cases hcall
      have hkey := Request.keyFault?_eq_none_iff.1 hrefusal
      have hreset : (Request.reset partition subject).act now t = _ := bind_ok (reset_apply hkey t)
      refine ⟨hkey, _, refl_of _ _, ?_⟩
      unfold seen
      rw [hreset]
      exact Prod.ext rfl ((Table.get?_erase ..).trans (if_pos rfl))
  | increment p x l => cases hcall
  | check p x l => cases hcall
  | purge => cases hcall

/-- What the thread has come to, or nothing where that is a bucket that counts as full. -/
def KeepsBucket (partition subject : String) (now : Instant) (b : Option (StoredBucket Float))
    (t : RateTable Float) : Prop :=
  ∀ key, storageKey partition subject = .ok key → LeftAlone now b (t.buckets.get? key)

theorem bucketThread_follows (partition subject : String) :
    (bucketThread partition subject).Follows (KeepsBucket partition subject) Recovers
      (seen partition subject) fun x => (.ok x.2, x.1) where
  mono h hlater key hkey := (h key hkey).mono hlater
  other hown h key hkey := trans_of _ (h key hkey) (act_leaves_bucket hkey hown _)
  own := by
    intro now q c b t hown hnow hfit h
    obtain ⟨hkey, b', hb', hseen⟩ := bucketThread_act hown hnow t
    have hleft : LeftAlone now b b' := trans_of _ (h _ hkey) hb'
    have hstep : c.step now b' = c.step now b := by
      rcases hleft with rfl | ⟨rfl, hfull⟩
      · rfl
      · rw [← recovers_iff.1 hfit, hfull]
    rw [hstep] at hseen
    refine ⟨hseen, fun key hkey' => .inl ?_⟩
    rw [hkey] at hkey'
    cases hkey'
    exact congrArg Prod.snd hseen

/-! ### Dropping all that can be dropped -/

/-- The requests of the thread by themselves, and a purge before each. -/
def purgedBefore (partition subject : String) (run : List (Instant × Request)) :
    List (Instant × Request) :=
  run.flatMap fun call =>
    if (bucketThread partition subject).own call.2 = none then [] else [(call.1, .purge), call]

theorem purge_own (partition subject : String) :
    (bucketThread partition subject).own .purge = none := by
  cases h : (bucketThread partition subject).own .purge with
  | none => rfl
  | some c => cases (bucketThread_own_iff.1 h).2.1

section PurgedBefore

variable {q : Request} {run : List (Instant × Request)}

theorem purgedBefore_of_other (h : (bucketThread partition subject).own q = none) :
    purgedBefore partition subject ((now, q) :: run) = purgedBefore partition subject run := by
  unfold purgedBefore
  rw [List.flatMap_cons, if_pos h]
  rfl

theorem purgedBefore_of_own {c : BucketCall} (h : (bucketThread partition subject).own q = some c) :
    purgedBefore partition subject ((now, q) :: run) =
      (now, .purge) :: (now, q) :: purgedBefore partition subject run := by
  unfold purgedBefore
  rw [List.flatMap_cons, h, if_neg nofun]
  rfl

theorem calls_purgedBefore (partition subject : String) (run : List (Instant × Request)) :
    (bucketThread partition subject).calls (purgedBefore partition subject run) =
      (bucketThread partition subject).calls run := by
  induction run with
  | nil => rfl
  | cons call run ih =>
      obtain ⟨now, q⟩ := call
      cases hown : (bucketThread partition subject).own q with
      | none => rw [purgedBefore_of_other hown, Thread.calls_of_other hown, ih]
      | some c =>
          rw [purgedBefore_of_own hown, Thread.calls_of_other (purge_own _ _),
            Thread.calls_of_own hown, Thread.calls_of_own hown, ih]

theorem fst_of_mem {call call' : Instant × Request}
    (h : call ∈ if (bucketThread partition subject).own call'.2 = none then []
      else [(call'.1, .purge), call']) : call.1 = call'.1 := by
  split at h
  · cases h
  · rcases List.mem_cons.1 h with rfl | hmem
    · rfl
    · rw [List.mem_singleton.1 hmem]

theorem InTime.purgedBefore (partition subject : String) (h : InTime run) :
    InTime (purgedBefore partition subject run) := by
  refine ⟨?_, fun call hcall => ?_⟩
  · have hordered := h.ordered
    rw [List.pairwise_map] at hordered ⊢
    refine List.pairwise_flatMap.2 ⟨fun call _ => ?_, hordered.imp fun {call call'} hle => ?_⟩
    · split
      · exact .nil
      · exact List.pairwise_pair.2 (Instant.le_refl _)
    · intro x hx y hy
      rw [fst_of_mem hx, fst_of_mem hy]
      exact hle
  · obtain ⟨call', hcall', hmem⟩ := List.mem_flatMap.1 hcall
    rw [fst_of_mem hmem]
    exact h.early call' hcall'

/-- If nothing shows when all is dropped that can be dropped, every request recovers. -/
theorem fits_of_purgedBefore (hearly : ∀ call ∈ run, call.1 ≤ .minuteBeforeLatest)
    {b : Option (StoredBucket Float)} {t : RateTable Float}
    (ht : t.buckets.get? (partition ++ ":" ++ subject) = b)
    (h : ((bucketThread partition subject).entries (purgedBefore partition subject run) t).map
        (seen partition subject) =
      ((bucketThread partition subject).fold b ((bucketThread partition subject).calls run)).map
        fun x => (.ok x.2, x.1)) :
    (bucketThread partition subject).Fits Recovers b ((bucketThread partition subject).calls run) := by
  induction run generalizing b t with
  | nil => trivial
  | cons call run ih =>
      obtain ⟨now, q⟩ := call
      obtain ⟨hnow, hearly⟩ := List.forall_mem_cons.1 hearly
      cases hown : (bucketThread partition subject).own q with
      | none =>
          rw [purgedBefore_of_other hown, Thread.calls_of_other hown] at h
          rw [Thread.calls_of_other hown]
          exact ih hearly ht h
      | some c =>
          rw [purgedBefore_of_own hown, Thread.entries_of_other t (purge_own _ _),
            Thread.entries_of_own _ hown, Thread.calls_of_own hown] at h
          rw [Thread.calls_of_own hown]
          obtain ⟨hhead, htail⟩ := List.cons.inj h
          -- What the purge leaves is not pruned once more, so the request steps from just that.
          obtain ⟨-, b', hb', hseen⟩ := bucketThread_act hown hnow (Request.purge.act now t).2
          rw [purge_buckets, ht] at hb'
          rw [hhead, hb'.eq_live?] at hseen
          have hstep : c.step now (live? b now) = c.step now b :=
            Prod.ext (congrArg Prod.snd hseen).symm (Except.ok.inj (congrArg Prod.fst hseen)).symm
          exact ⟨recovers_iff.2 hstep, ih hearly (congrArg Prod.snd hhead) htail⟩

end PurgedBefore

theorem buckets_entries_iff (partition subject : String) {run : List (Instant × Request)}
    (hrun : InTime run) :
    (∀ run', InTime run' →
        (bucketThread partition subject).calls run' = (bucketThread partition subject).calls run →
        ((bucketThread partition subject).entries run' {}).map (seen partition subject) =
          ((bucketThread partition subject).fold none ((bucketThread partition subject).calls run)).map
            fun x => (.ok x.2, x.1)) ↔
      (bucketThread partition subject).Fits Recovers none
        ((bucketThread partition subject).calls run) := by
  constructor
  · intro h
    exact fits_of_purgedBefore hrun.early rfl
      (h _ (hrun.purgedBefore partition subject) (calls_purgedBefore partition subject run))
  · intro hfits run' hrun' hcalls
    rw [← hcalls] at hfits ⊢
    exact (bucketThread_follows partition subject).entries_eq hrun' (fun _ _ _ _ => .inl rfl) hfits

/-- If each request about a bucket recovers, they answer what they would if nothing was ever dropped. If
one does not, this shows, in an answer or in the bucket after it, in some run with the same requests
about the bucket. In exact fractions, and away from leap seconds, a request recovers just if the bucket
is full under the limit of that request. -/
theorem dropping_unseen_iff_recovers (partition subject : String) {run : List (Instant × Request)}
    (hrun : InTime run) :
    let thread := bucketThread partition subject
    (thread.Fits Recovers none (thread.calls run) →
        (thread.entries run {}).map Prod.fst =
          (thread.fold none (thread.calls run)).map fun x => .ok x.2) ∧
      ((∀ run', InTime run' → thread.calls run' = thread.calls run →
          (thread.entries run' {}).map (seen partition subject) =
            (thread.fold none (thread.calls run)).map fun x => (.ok x.2, x.1)) ↔
        thread.Fits Recovers none (thread.calls run)) ∧
      ∀ (l : BucketLimit Rat) (b : Bucket Rat) (now : Instant) (cost : Rat), l.fault? = none →
        b.lastRefillAt ≤ now → b.lastRefillAt.inLeapSecond = false → now.inLeapSecond = false →
        now ≤ .minuteBeforeLatest →
        (Bucket.consume (some b) now l cost = Bucket.consume none now l cost ↔ b.fullAt l ≤ now) := by
  intro thread
  have hiff := buckets_entries_iff partition subject hrun
  refine ⟨fun hfits => ?_, hiff, fun l b now cost hfit hb hbleap hleap hlatest =>
    Bucket.consume_eq_fresh_iff_fullAt_le hfit hb hbleap hleap hlatest⟩
  have hseen := congrArg (List.map Prod.fst) (hiff.2 hfits run hrun rfl)
  rw [List.map_map, List.map_map] at hseen
  exact hseen

/-- A bucket that has been full for a minute is dropped, and nobody sees it. -/
theorem full_bucket_dropped :
    let l : BucketLimit Float := ⟨2, 1, 1000⟩
    let later := Instant.epoch.later (.ofSeconds 61)
    let run : List (Instant × Request) := [(.epoch, .consume "api" "a" l 2),
      (later, .consume "api" "b" l 1), (later, .consume "api" "a" l 1)]
    ((bucketThread "api" "a").entries run {}).map Prod.fst =
      [.ok (.result ⟨true, 0, .later .epoch (.ofSeconds 2)⟩),
        .ok (.result ⟨true, 1, .later later (.ofSeconds 1)⟩)] := by
  intro l later run
  have hrun : InTime run := ⟨by decide, by decide⟩
  have hfit : l.fault? = none := by decide +kernel
  have hown : ∀ {cost : Float}, costFault? cost = none →
      (bucketThread "api" "a").own (.consume "api" "a" l cost) = some (.consume l cost) := by
    intro cost hcost
    refine bucketThread_own_iff.2 ⟨?_, rfl, rfl⟩
    exact Option.or_eq_none_iff.2 ⟨hfit, Option.or_eq_none_iff.2 ⟨hcost, by decide⟩⟩
  have hother : (bucketThread "api" "a").own (.consume "api" "b" l 1) = none :=
    if_neg (by decide +kernel)
  have hcalls : (bucketThread "api" "a").calls run =
      [(.epoch, .consume l 2), (later, .consume l 1)] := by
    rw [Thread.calls_of_own (hown (by decide +kernel)), Thread.calls_of_other hother,
      Thread.calls_of_own (hown (by decide +kernel))]
    rfl
  have hfits : (bucketThread "api" "a").Fits Recovers none ((bucketThread "api" "a").calls run) := by
    rw [hcalls]
    exact ⟨trivial, fun _ => Bucket.consume_of_refilled (by decide +kernel), trivial⟩
  have hfold : ((bucketThread "api" "a").fold none [(.epoch, .consume l 2), (later, .consume l 1)]).map
      Prod.snd = [.result ⟨true, 0, .later .epoch (.ofSeconds 2)⟩,
        .result ⟨true, 1, .later later (.ofSeconds 1)⟩] := by
    decide +kernel
  have hanswers := congrArg (List.map fun r => (.ok r : Except (Failure Error) Reply)) hfold
  rw [List.map_map, ← hcalls] at hanswers
  exact ((dropping_unseen_iff_recovers "api" "a" hrun).1 hfits).trans hanswers

/-- A bucket of one token is full after a second and may be dropped, but if what is asked next is fifty
of a hundred tokens, there are a hundred instead of one. With one limit the two differ by rounding: of
49 tokens that flow in every 49 milliseconds, not quite one has flowed in after the first of these. -/
theorem dropping_seen :
    let thread := bucketThread "api" "a"
    let run (l l' : BucketLimit Float) (cost : Float) (later : Instant) : List (Instant × Request) :=
      [(.epoch, .consume "api" "a" l 1), (later, .purge), (later, .consume "api" "a" l' cost)]
    let answers (run : List (Instant × Request)) : List (Option Reply) :=
      (thread.entries run {}).map fun e => e.1.toOption
    let undropped (run : List (Instant × Request)) : List (Option Reply) :=
      (thread.fold none (thread.calls run)).map fun x => some x.2
    let second := Instant.epoch.later (.ofSeconds 1)
    let larger := run ⟨1, 1, 1000⟩ ⟨100, 1, 1000⟩ 50 second
    let millis := Instant.epoch.later (.ofMillis 1)
    let rounded := run ⟨1, 49, 49⟩ ⟨1, 49, 49⟩ 1 millis
    (InTime larger ∧
      answers larger =
        [some (.result ⟨true, 0, second⟩), some (.result ⟨true, 50, .later .epoch (.ofSeconds 51)⟩)] ∧
      undropped larger =
        [some (.result ⟨true, 0, second⟩), some (.result ⟨false, 1, .later .epoch (.ofSeconds 50)⟩)]) ∧
    InTime rounded ∧
      answers rounded =
        [some (.result ⟨true, 0, millis⟩), some (.result ⟨true, 0, .later .epoch (.ofMillis 2)⟩)] ∧
      undropped rounded =
        [some (.result ⟨true, 0, millis⟩), some (.result ⟨false, 0, .later .epoch (.ofMillis 2)⟩)] := by
  intro thread run answers undropped second larger millis rounded
  refine ⟨⟨⟨by decide, by decide⟩, ?_, ?_⟩, ⟨by decide, by decide⟩, ?_, ?_⟩
  all_goals decide +kernel

end RateTable

end Latchkey
