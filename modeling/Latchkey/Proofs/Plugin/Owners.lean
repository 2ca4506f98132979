import Latchkey.Proofs.Limit.Account
import Latchkey.Proofs.Plugin.Verdict
/-!
# Who shares a budget

A limiter for owners counts a key under its owner, and one without an owner under its identifier. Both are
plain texts in one place, so keys that have no owner in common share a budget just if one of them has no
owner and its identifier is the owner of the other. Keys that do not share one cannot be told of each other
by what the limiter decides, as long as each request to a bucket finds there what it would if nothing was
ever dropped.
-/

namespace Latchkey

open Act RateTable

/-- A table of rates and the clock that it is used by. -/
def RateStore.clocked : RateStore (Instant × RateTable Float) :=
  .memory ⟨Prod.snd, fun t s => (s.1, t)⟩ Prod.fst

/-- That a record is shown to the limiter with a request for it. -/
structure Showing where
  now : Instant
  request : VerifyRequest
  record : KeyRecord

/-- It is the key of this record that is shown, whatever its metadata are by then. -/
def Showing.isOf (r : KeyRecord) (c : Showing) : Bool := c.record.id = r.id ∧ c.record.owner = r.owner

/-- The clock does not go back, and stays a minute before the end of the range of instants. -/
structure Showing.InTime (run : List Showing) : Prop where
  ordered : (run.map now).Pairwise (· ≤ ·)
  early : ∀ c ∈ run, c.now ≤ .minuteBeforeLatest

theorem Showing.InTime.tail {c : Showing} {run : List Showing} (h : InTime (c :: run)) : InTime run :=
  ⟨(List.pairwise_cons.1 h.ordered).2, fun c' hc' => h.early c' (List.mem_cons_of_mem _ hc')⟩

theorem Showing.InTime.le {c : Showing} {run : List Showing} (h : InTime (c :: run)) :
    ∀ c' ∈ run, c.now ≤ c'.now :=
  fun c' hc' => (List.pairwise_cons.1 h.ordered).1 _ (List.mem_map.2 ⟨c', hc', rfl⟩)

namespace RateLimits

/-- What the limiter answers when a record is shown to it. -/
abbrev Answer : Type := Except (Failure PluginError) (Option Decision)

variable (limits : RateLimits (Instant × RateTable Float))

def judge (c : Showing) (t : RateTable Float) : Answer × RateTable Float :=
  let x := (Plugin.rateLimit limits).answer (.recordLoaded c.request c.record) (c.now, t)
  (x.1, x.2.2)

/-- All that is shown in a run, each with the answer to it. -/
def judgements : List Showing → RateTable Float → List (Showing × Answer)
  | [], _ => []
  | c :: run, t => (c, (limits.judge c t).1) :: judgements run (limits.judge c t).2

def judgementsOf (r : KeyRecord) (run : List Showing) (t : RateTable Float) : List (Showing × Answer) :=
  (limits.judgements run t).filter fun e => e.1.isOf r

/-- The request that is made to the table. -/
def ask? (c : Showing) : Option Request :=
  (limits.partitionFor c.request).map fun partition =>
    (limits.ruleFor c.record).request partition (limits.subject c.record)

def asked (run : List Showing) : List (Instant × Request) :=
  run.filterMap fun c => (limits.ask? c).map (c.now, ·)

variable {limits} {c : Showing} {run : List Showing} {t t' : RateTable Float} {q : Request}
  {subject : String} {a b : KeyRecord}

theorem judge_of_ask (hstore : limits.store = .clocked) (hask : limits.ask? c = some q) :
    ∃ x : Except (Failure Error) LimitResult, (q.act c.now t).1 = x.map Reply.result ∧
      limits.judge c t = (verdict x, (q.act c.now t).2) := by
  obtain ⟨partition, hpartition, rfl⟩ := Option.map_eq_some_iff.1 hask
  refine ⟨_, congrArg Prod.fst (LimitRule.act_request _ t), ?_⟩
  have hanswer := answer_eq_verdict hstore hpartition c.record (c.now, t)
  rw [LimitRule.act_request]
  exact congrArg (fun x => (x.1, x.2.2)) hanswer

theorem judge_of_none (hask : limits.ask? c = none) :
    limits.judge c t = (.error (.error noPartition), t) := by
  have hanswer : limits.answer c.request c.record (c.now, t) =
      (.error (.error noPartition), (c.now, t)) := by
    unfold answer
    rw [Option.map_eq_none_iff.1 hask]
    rfl
  exact congrArg (fun x => (x.1, x.2.2)) hanswer

theorem judge_eq_of_reply_eq (hstore : limits.store = .clocked) (hask : limits.ask? c = some q)
    (h : (q.act c.now t).1 = (q.act c.now t').1) : (limits.judge c t).1 = (limits.judge c t').1 := by
  obtain ⟨x, hx, hjudge⟩ := judge_of_ask (t := t) hstore hask
  obtain ⟨x', hx', hjudge'⟩ := judge_of_ask (t := t') hstore hask
  have hsame : x = x' := by
    rw [hx, hx'] at h
    cases x <;> cases x' <;> simp_all [Except.map]
  rw [hjudge, hjudge', hsame]

theorem judge_snd (hstore : limits.store = .clocked) (hask : limits.ask? c = some q)
    (t : RateTable Float) : (limits.judge c t).2 = (q.act c.now t).2 := by
  obtain ⟨x, -, hjudge⟩ := judge_of_ask (t := t) hstore hask
  rw [hjudge]

theorem judge_of_result (hstore : limits.store = .clocked) (hask : limits.ask? c = some q)
    {result : LimitResult} (hact : q.act c.now t = (.ok (.result result), t')) :
    limits.judge c t =
      (.ok (if result.success then none else some (.rejecting Reason.rateLimited)), t') := by
  obtain ⟨x, hx, hjudge⟩ := judge_of_ask (t := t) hstore hask
  rw [hact] at hx hjudge
  cases x with
  | error e => cases hx
  | ok r =>
      cases hx
      exact hjudge

theorem subject?_ask (hask : limits.ask? c = some q) :
    ∃ partition, q.subject? = some (partition, limits.subject c.record) := by
  obtain ⟨partition, -, rfl⟩ := Option.map_eq_some_iff.1 hask
  exact ⟨partition, LimitRule.subject?_request ..⟩

theorem asked_of_none (hask : limits.ask? c = none) : limits.asked (c :: run) = limits.asked run := by
  simp [asked, hask]

theorem asked_of_some (hask : limits.ask? c = some q) :
    limits.asked (c :: run) = (c.now, q) :: limits.asked run := by
  simp [asked, hask]

/-! ### A run and a part of it -/

theorem agree_judge (hstore : limits.store = .clocked) (hearly : c.now ≤ .minuteBeforeLatest)
    (h : Agree subject c.now (limits.asked (c :: run)) t t') :
    Agree subject c.now (limits.asked run) (limits.judge c t).2 (limits.judge c t').2 ∧
      (limits.subject c.record = subject → (limits.judge c t).1 = (limits.judge c t').1) := by
  cases hask : limits.ask? c with
  | none =>
      rw [asked_of_none hask] at h
      rw [judge_of_none hask, judge_of_none hask]
      exact ⟨h, fun _ => rfl⟩
  | some q =>
      rw [asked_of_some hask] at h
      rw [judge_snd hstore hask, judge_snd hstore hask]
      refine ⟨h.cons hearly, fun hsubject => ?_⟩
      obtain ⟨p, hq⟩ := subject?_ask hask
      rw [hsubject] at hq
      exact judge_eq_of_reply_eq hstore hask (h.reply_eq hearly hq)

theorem agree_judge_left (hstore : limits.store = .clocked) (hsubject : limits.subject c.record ≠ subject)
    (h : Agree subject c.now (limits.asked (c :: run)) t t') :
    Agree subject c.now (limits.asked run) (limits.judge c t).2 t' := by
  cases hask : limits.ask? c with
  | none =>
      rw [asked_of_none hask] at h
      rwa [judge_of_none hask]
  | some q =>
      rw [asked_of_some hask] at h
      rw [judge_snd hstore hask]
      obtain ⟨p, hq⟩ := subject?_ask hask
      refine h.other fun p' hq' => hsubject ?_
      rw [hq] at hq'
      cases hq'
      rfl

/-- A subject does not notice that something is left out of a run which is not about it. -/
theorem judgements_filter (hstore : limits.store = .clocked) {keep : Showing → Bool}
    (hkeep : ∀ c, keep c = false → limits.subject c.record ≠ subject) (hrun : Showing.InTime run)
    (h : ∀ c ∈ run, Agree subject c.now (limits.asked run) t t') :
    (limits.judgements run t).filter (fun e => limits.subject e.1.record = subject) =
      (limits.judgements (run.filter keep) t').filter fun e => limits.subject e.1.record = subject := by
  -- the two tables are not the same after a step, but they agree on the account of the subject
  induction run generalizing t t' with
  | nil => rfl
  | cons c run ih =>
      have hc := h c List.mem_cons_self
      have hboth := agree_judge hstore (hrun.early c List.mem_cons_self) hc
      have hrest := ih hrun.tail fun c' hc' => hboth.1.mono (hrun.le c' hc')
      cases hkept : keep c with
      | true =>
          rw [List.filter_cons_of_pos hkept, judgements, judgements, List.filter_cons, List.filter_cons,
            hrest]
          by_cases hsubject : limits.subject c.record = subject
          · rw [hboth.2 hsubject]
          · simp [hsubject]
      | false =>
          -- shown over the first table alone, to another subject
          have hsubject := hkeep c hkept
          have hleft := agree_judge_left hstore hsubject hc
          rw [List.filter_cons_of_neg (by simp [hkept]), judgements,
            List.filter_cons_of_neg (by simpa using hsubject)]
          exact ih hrun.tail fun c' hc' => hleft.mono (hrun.le c' hc')

/-! ### Which keys share a budget -/

/-- The first key has no owner, and its identifier is the owner of the second. -/
def Clash (a b : KeyRecord) : Prop := a.owner = none ∧ b.owner = some a.id.text

theorem subject_of_isOf {r : KeyRecord} (limits : RateLimits (Instant × RateTable Float))
    (h : c.isOf r = true) : limits.subject c.record = limits.subject r := by
  obtain ⟨hid, howner⟩ := of_decide_eq_true h
  unfold subject
  rw [hid, howner]

theorem subject_eq_iff (hidentity : limits.identity = .owner) (hids : a.id ≠ b.id)
    (howners : ∀ owner, ¬(a.owner = some owner ∧ b.owner = some owner)) :
    limits.subject a = limits.subject b ↔ Clash a b ∨ Clash b a := by
  have htexts : a.id.text ≠ b.id.text := by
    intro h
    apply hids
    cases ha : a.id; cases hb : b.id
    simp_all
  unfold subject Clash
  rw [hidentity]
  cases ha : a.owner <;> cases hb : b.owner <;> simp_all [eq_comm]

theorem filter_judgementsOf {run' : List Showing} (r : KeyRecord)
    (h : (limits.judgements run t).filter (fun e => limits.subject e.1.record = limits.subject r) =
      (limits.judgements run' t').filter fun e => limits.subject e.1.record = limits.subject r) :
    limits.judgementsOf r run t = limits.judgementsOf r run' t' := by
  have hof : ∀ e : Showing × Answer,
      (e.1.isOf r && decide (limits.subject e.1.record = limits.subject r)) = e.1.isOf r := by
    intro e
    cases he : e.1.isOf r with
    | false => rfl
    | true => simp [subject_of_isOf limits he]
  have hfilter := congrArg (List.filter fun e => e.1.isOf r) h
  simp only [List.filter_filter, hof] at hfilter
  exact hfilter

/-- What the limiter decides for a key does not depend on a key that it is counted apart from. -/
theorem judgementsOf_without (hstore : limits.store = .clocked)
    (hsubjects : limits.subject a ≠ limits.subject b) (hrun : Showing.InTime run)
    (hrecovers : AccountRecovers (limits.subject b) (limits.asked run) t) :
    limits.judgementsOf b run t = limits.judgementsOf b (run.filter fun c => !c.isOf a) t := by
  refine filter_judgementsOf b (judgements_filter hstore (fun c hc => ?_) hrun fun c _ =>
    agree_self c.now hrecovers)
  rw [subject_of_isOf limits (by simpa using hc)]
  exact hsubjects

/-- One request in a second for the keys of each owner. -/
def onceForOwner : RateLimits (Instant × RateTable Float) :=
  ⟨.clocked, .window ⟨1, 1000⟩, some "api", .owner⟩

/-- The key of a record is shown at the epoch, and it carries nothing. -/
def bare (r : KeyRecord) : Showing := ⟨.epoch, { key := "" }, { r with metadata := .empty }⟩

theorem judge_bare {r : KeyRecord} {w : Option Window}
    (hw : t.windows.get? ("api" ++ ":" ++ onceForOwner.subject r) = w) :
    let next := Window.increment w .epoch ⟨1, 1000⟩
    (onceForOwner.judge (bare r) t).1 =
        .ok (if next.2.success then none else some (.rejecting Reason.rateLimited)) ∧
      (onceForOwner.judge (bare r) t).2.windows.get? ("api" ++ ":" ++ onceForOwner.subject r) =
        some next.1 := by
  intro next
  have hask : onceForOwner.ask? (bare r) =
      some (.increment "api" (onceForOwner.subject r) ⟨1, 1000⟩) := rfl
  have hkey : storageKey "api" (onceForOwner.subject r) = .ok ("api" ++ ":" ++ onceForOwner.subject r) :=
    storageKey_eq_ok_iff.2 ⟨by decide, rfl⟩
  have hfit : (⟨1, 1000⟩ : WindowLimit).fault? = none := by decide
  obtain ⟨t', hact, hafter⟩ := act_increment hfit hkey (by decide : Instant.epoch ≤ .minuteBeforeLatest)
    (.inl hw)
  rw [judge_of_result rfl hask hact]
  exact ⟨rfl, hafter⟩

theorem inTime_bare (rs : List KeyRecord) : Showing.InTime (rs.map bare) where
  ordered := by
    rw [List.map_map, List.pairwise_map]
    exact List.pairwise_of_forall fun _ _ => Instant.le_refl .epoch
  early c hc := by
    obtain ⟨r, -, rfl⟩ := List.mem_map.1 hc
    show Instant.epoch ≤ Instant.minuteBeforeLatest
    decide

theorem recovers_bare (rs : List KeyRecord) (subject : String) :
    AccountRecovers subject (onceForOwner.asked (rs.map bare)) {} := by
  refine accountRecovers_of_windows (fun call hcall => ?_) {}
  obtain ⟨c, hc, hask⟩ := List.mem_filterMap.1 hcall
  obtain ⟨r, -, rfl⟩ := List.mem_map.1 hc
  cases hask
  rfl

/-- If two keys are counted together, the one takes the only request from the other. -/
theorem judgementsOf_bare (hids : a.id ≠ b.id) (hsame : onceForOwner.subject a = onceForOwner.subject b) :
    onceForOwner.judgementsOf b [bare a, bare b] {} =
        [(bare b, .ok (some (.rejecting Reason.rateLimited)))] ∧
      onceForOwner.judgementsOf b ([bare a, bare b].filter fun c => !c.isOf a) {} =
        [(bare b, .ok none)] := by
  have hbb : (bare b).isOf b = true := decide_eq_true ⟨rfl, rfl⟩
  have hab : (bare a).isOf b = false := decide_eq_false fun h => hids h.1
  have haa : (bare a).isOf a = true := decide_eq_true ⟨rfl, rfl⟩
  have hba : (bare b).isOf a = false := decide_eq_false fun h => hids h.1.symm
  obtain ⟨-, hafter⟩ := judge_bare (r := a) (t := {}) rfl
  rw [hsame] at hafter
  obtain ⟨hsecond, -⟩ := judge_bare hafter
  obtain ⟨hfirst, -⟩ := judge_bare (r := b) (t := {}) rfl
  constructor
  · simp only [judgementsOf, judgements, hsecond, List.filter, hab, hbb]
    rfl
  · simp only [List.filter, haa, hba, Bool.not_true, Bool.not_false, judgementsOf, judgements, hfirst, hbb]
    rfl

/-- Of two keys that have no owner in common, the second cannot be told of the first by what is decided
for it, just if neither has no owner and its identifier for the owner of the other. -/
theorem apart_iff_no_clash (hids : a.id ≠ b.id)
    (howners : ∀ owner, ¬(a.owner = some owner ∧ b.owner = some owner)) :
    (∀ (limits : RateLimits (Instant × RateTable Float)) (run : List Showing) (t : RateTable Float),
        limits.store = .clocked → limits.identity = .owner → Showing.InTime run →
        AccountRecovers (limits.subject b) (limits.asked run) t →
        limits.judgementsOf b run t = limits.judgementsOf b (run.filter fun c => !c.isOf a) t) ↔
      ¬(Clash a b ∨ Clash b a) := by
  constructor
  · intro h hclash
    have hsame : onceForOwner.subject a = onceForOwner.subject b :=
      (subject_eq_iff rfl hids howners).2 hclash
    have hboth := h onceForOwner ([a, b].map bare) {} rfl rfl (inTime_bare _) (recovers_bare _ _)
    obtain ⟨htaken, hleft⟩ := judgementsOf_bare hids hsame
    rw [List.map_cons, List.map_cons, List.map_nil, htaken, hleft] at hboth
    simp at hboth
  · intro hclash limits run t hstore hidentity hrun hrecovers
    refine judgementsOf_without hstore (fun hsame => hclash ?_) hrun hrecovers
    exact (subject_eq_iff hidentity hids howners).1 hsame

/-- A key of an owner, and one without. -/
def keyOf (id : String) (owner : Option String) : KeyRecord :=
  { KeyRecord.fresh ⟨id⟩ "" id .epoch with owner }

/-- A key of an owner keeps its request, whatever a key without an owner asks for. -/
theorem owner_keeps_request :
    let a := keyOf "1" none
    let b := keyOf "2" (some "acme")
    (onceForOwner.judgementsOf b ([a, a, b, a, b].map bare) {}).map (fun e => e.2.toOption) =
      [some none, some (some (.rejecting Reason.rateLimited))] := by
  intro a b
  rw [(@apart_iff_no_clash a b (by decide) (by simp [a, keyOf])).2
    (by simp [Clash, a, b, keyOf, KeyRecord.fresh])
    onceForOwner _ {} rfl rfl (inTime_bare _) (recovers_bare _ _)]
  decide +kernel

/-- A key without an owner takes the request of the keys whose owner has its identifier for a name. And
the keys of one owner, by pruning the table early, can give those of another a token that has not quite
flowed in. -/
theorem told_of_other_keys :
    let ownerless := keyOf "1" none
    let named := keyOf "2" (some "1")
    let other := keyOf "3" (some "acme")
    let buckets := { onceForOwner with rule := .bucket ⟨1, 49, 49⟩ }
    let later (millis : Int) : Showing := { bare named with now := .laterMillis .epoch millis }
    let run := [bare other, later 59999, later 60000]
    let decisions (limits : RateLimits (Instant × RateTable Float)) (run : List Showing) :=
      (limits.judgementsOf named run {}).map fun e => e.2.toOption
    decisions onceForOwner [bare ownerless, bare named] = [some (some (.rejecting Reason.rateLimited))] ∧
      decisions onceForOwner [bare named] = [some none] ∧
      Showing.InTime run ∧ decisions buckets run = [some none, some none] ∧
      decisions buckets (run.filter fun c => !c.isOf other) =
        [some none, some (some (.rejecting Reason.rateLimited))] := by
  refine ⟨?_, ?_, ⟨by decide, by decide⟩, ?_, ?_⟩
  all_goals decide +kernel

end RateLimits

end Latchkey
