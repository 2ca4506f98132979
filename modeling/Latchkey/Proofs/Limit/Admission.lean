import Latchkey.Proofs.Limit.WindowThread
/-!
# How many requests windows admit

The requests about a window fall into batches: the first opens a window, those before its end are
numbered on from it, and the first one at its end or after opens the next. Of a batch just the first
requests pass, as many as the limit says. An interval as long as a window meets at most two batches,
because the one in the middle of three would begin and end in it. The exception is an interval that
begins in a second with a leap second, before it: its end does not count the leap second, and windows
that open there do.
-/

namespace Latchkey

namespace Window

variable {l : WindowLimit} {w : Window} {a e s now : Instant}

/-- The answers to requests at the given times, one after another. -/
def answers (l : WindowLimit) : Option Window → List Instant → List LimitResult
  | _, [] => []
  | w, now :: ts => (next w now l).outcome l :: answers l (some (next w now l)) ts

/-- The requests that fall into one window. -/
structure Batch where
  opening : Instant
  others : List Instant

/-- The requests at the given times, split by the windows of length `d` that they fall into. -/
def batches (d : Duration) : List Instant → List Batch
  | [] => []
  | s :: ts => ⟨s, ts.takeWhile (· < s.later d)⟩ :: batches d (ts.dropWhile (· < s.later d))
termination_by ts => ts.length
decreasing_by exact Nat.lt_succ_of_le (List.dropWhile_sublist _).length_le

/-- The answer to request number `k` of a window that opened at `s`. -/
def numbered (l : WindowLimit) (s : Instant) (k : Nat) : LimitResult :=
  ⟨k ≤ l.limit.toNat, UInt64.ofNat (l.limit.toNat - k), s.later l.length⟩

namespace Batch

def readings (b : Batch) : List Instant := b.opening :: b.others

/-- The requests of the batch are numbered from one. -/
def answers (l : WindowLimit) (b : Batch) : List LimitResult :=
  (List.range' 1 b.readings.length).map (numbered l b.opening)

theorem length_answers (l : WindowLimit) (b : Batch) : (b.answers l).length = b.readings.length := by
  simp [answers]

def calls (l : WindowLimit) (b : Batch) : List (Instant × LimitResult) := b.readings.zip (b.answers l)

end Batch

/-! ### The answers of a batch -/

theorem next_of_lt (h : now < w.resetAt) :
    next (some w) now l = { w with count := bump w.count } := by
  simp [next, live?, Option.filter_some, h]

theorem next_of_le (h : w.resetAt ≤ now) : next (some w) now l = next none now l := by
  simp [next, live?, Option.filter_some, Instant.not_lt.2 h]

theorem outcome_eq_numbered {k : Nat} (hlimit : l.limit.toNat < UInt64.size - 1)
    (hcount : w.count.toNat = min k (UInt64.size - 1)) (hends : w.resetAt = s.later l.length) :
    w.outcome l = numbered l s k := by
  have hsize : UInt64.size = 18446744073709551616 := rfl
  have hpass : w.count ≤ l.limit ↔ k ≤ l.limit.toNat := by
    rw [UInt64.le_iff_toNat_le]
    omega
  have hleft : leftOver l.limit w.count = UInt64.ofNat (l.limit.toNat - k) := by
    unfold leftOver
    split
    · rename_i hle
      have hk := hpass.1 hle
      rw [← UInt64.toNat_inj, UInt64.toNat_sub_of_le _ _ hle, UInt64.toNat_ofNat']
      omega
    · rename_i hmore
      rw [Nat.sub_eq_zero_of_le (by have := mt hpass.2 hmore; omega)]
      rfl
  simp only [outcome, numbered, hleft, hends, hpass]

/-- An open window answers the requests before its end, and is open or ended after them. -/
theorem answers_of_open {k : Nat} (hlimit : l.limit.toNat < UInt64.size - 1)
    (hcount : w.count.toNat = min k (UInt64.size - 1)) (hends : w.resetAt = s.later l.length)
    (ts : List Instant) :
    ∃ w' : Window, w'.resetAt = s.later l.length ∧ answers l (some w) ts =
      (List.range' (k + 1) (ts.takeWhile (· < s.later l.length)).length).map (numbered l s) ++
        answers l (some w') (ts.dropWhile (· < s.later l.length)) := by
  -- By induction on the requests, with the number of the last one: each before the end is the next.
  induction ts generalizing w k with
  | nil => exact ⟨w, hends, rfl⟩
  | cons now ts ih =>
      by_cases hnow : now < s.later l.length
      · have hnext : next (some w) now l = { w with count := bump w.count } :=
          next_of_lt (hends ▸ hnow)
        have hbump : (next (some w) now l).count.toNat = min (k + 1) (UInt64.size - 1) := by
          rw [hnext, toNat_bump, hcount]
          omega
        have hstays : (next (some w) now l).resetAt = s.later l.length := by rw [hnext, hends]
        obtain ⟨w', hw', hrest⟩ := ih hbump hstays
        refine ⟨w', hw', ?_⟩
        rw [answers, hrest, outcome_eq_numbered hlimit hbump hstays]
        simp [hnow, List.range'_succ]
      · exact ⟨w, hends, by simp [hnow]⟩

theorem answers_of_ended (ts : List Instant) (hends : w.resetAt = e) :
    answers l (some w) (ts.dropWhile (· < e)) = answers l none (ts.dropWhile (· < e)) := by
  cases h : ts.dropWhile (· < e) with
  | nil => rfl
  | cons now rest =>
      have hnow : ¬now < e := by
        have := List.head?_dropWhile_not (fun now => decide (now < e)) ts
        rw [h] at this
        simpa using this
      rw [answers, answers, next_of_le (hends ▸ Instant.not_lt.1 hnow)]

theorem answers_eq_flatMap_batches (hlimit : l.limit.toNat < UInt64.size - 1) (ts : List Instant) :
    answers l none ts = (batches l.length ts).flatMap (Batch.answers l) := by
  fun_induction batches l.length ts with
  | case1 => rfl
  | case2 s ts ih =>
      have hone : (next none s l).count.toNat = min 1 (UInt64.size - 1) := rfl
      obtain ⟨w, hw, hrest⟩ := answers_of_open (s := s) hlimit hone rfl ts
      rw [List.flatMap_cons, ← ih, ← answers_of_ended ts hw, answers, hrest,
        outcome_eq_numbered (s := s) hlimit hone rfl]
      simp [Batch.answers, Batch.readings, List.range'_succ]

/-! ### The batches of an interval -/

variable {d : Duration} {ts : List Instant} {b : Batch} {bs : List Batch}

theorem flatMap_readings_batches (d : Duration) (ts : List Instant) :
    (batches d ts).flatMap Batch.readings = ts := by
  fun_induction batches d ts with
  | case1 => rfl
  | case2 s ts ih => simp [ih, Batch.readings, List.takeWhile_append_dropWhile]

theorem zip_answers_eq (l : WindowLimit) (bs : List Batch) :
    (bs.flatMap Batch.readings).zip (bs.flatMap (Batch.answers l)) =
      bs.flatMap (Batch.calls l) := by
  induction bs with
  | nil => rfl
  | cons b bs ih =>
      rw [List.flatMap_cons, List.flatMap_cons, List.zip_append (Batch.length_answers l b).symm, ih]
      rfl

theorem le_of_mem_dropWhile (h : ts.Pairwise (· ≤ ·)) (ht : now ∈ ts.dropWhile (· < e)) : e ≤ now := by
  induction ts with
  | nil => cases ht
  | cons s ts ih =>
      obtain ⟨hle, hrest⟩ := List.pairwise_cons.1 h
      by_cases hs : s < e
      · rw [List.dropWhile_cons_of_pos (by simpa using hs)] at ht
        exact ih hrest ht
      · rw [List.dropWhile_cons_of_neg (by simpa using hs)] at ht
        have he := Instant.not_lt.1 hs
        rcases List.mem_cons.1 ht with rfl | ht
        · exact he
        · exact Instant.le_trans he (hle now ht)

/-- All requests of `b` come before those of `c`, which opens when `b` is over. -/
structure Batch.Precedes (d : Duration) (b c : Batch) : Prop where
  le_opening : ∀ t ∈ b.readings, t ≤ c.opening
  ends_le : b.opening.later d ≤ c.opening

theorem batches_ordered (h : ts.Pairwise (· ≤ ·)) :
    (batches d ts).Pairwise (Batch.Precedes d) ∧
      ∀ b ∈ batches d ts, ∀ t ∈ b.readings, b.opening ≤ t := by
  fun_induction batches d ts with
  | case1 => exact ⟨.nil, fun b hb => by cases hb⟩
  | case2 s ts ih =>
      obtain ⟨hle, hrest⟩ := List.pairwise_cons.1 h
      obtain ⟨hordered, hopens⟩ := ih (hrest.sublist (List.dropWhile_sublist _))
      have hopening : ∀ c ∈ batches d (ts.dropWhile (· < s.later d)),
          c.opening ∈ ts.dropWhile (· < s.later d) := by
        intro c hc
        rw [← flatMap_readings_batches d (ts.dropWhile (· < s.later d))]
        exact List.mem_flatMap.2 ⟨c, hc, List.mem_cons_self⟩
      refine ⟨List.pairwise_cons.2 ⟨fun c hc => ⟨?_, ?_⟩, hordered⟩, ?_⟩
      · intro t ht
        have hc := hopening c hc
        rcases List.mem_cons.1 ht with rfl | ht
        · exact hle _ ((List.dropWhile_sublist _).mem hc)
        · rw [← List.takeWhile_append_dropWhile (p := (· < s.later d)) (l := ts)] at hrest
          exact (List.pairwise_append.1 hrest).2.2 t ht _ hc
      · exact le_of_mem_dropWhile hrest (hopening c hc)
      · intro b hb t ht
        rcases List.mem_cons.1 hb with rfl | hb
        · rcases List.mem_cons.1 ht with rfl | ht
          · exact Instant.le_refl _
          · exact hle t ((List.takeWhile_sublist _).mem ht)
        · exact hopens b hb t ht

/-! ### The requests that pass in an interval -/

/-- How many of the requests that were made from `a` on and before `e` have passed. -/
def passedIn (a e : Instant) (calls : List (Instant × LimitResult)) : Nat :=
  calls.countP fun call => a ≤ call.1 ∧ call.1 < e ∧ call.2.success

theorem countP_range'_le (n m : Nat) : (List.range' 1 n).countP (· ≤ m) ≤ m := by
  have h : (List.range' 1 n).countP (· ≤ m) = min n m := by
    induction n with
    | zero => simp
    | succ n ih =>
        rw [List.range'_1_concat, List.countP_append, ih, List.countP_singleton]
        split <;> simp at * <;> omega
  rw [h]
  exact Nat.min_le_right n m

theorem passedIn_calls_le (l : WindowLimit) (a e : Instant) (b : Batch) :
    passedIn a e (b.calls l) ≤ l.limit.toNat := by
  have hsnd : (b.calls l).map Prod.snd = b.answers l :=
    List.map_snd_zip (Nat.le_of_eq (Batch.length_answers l b))
  calc passedIn a e (b.calls l)
    _ ≤ (b.calls l).countP (fun call => call.2.success) :=
        List.countP_mono_left fun call _ => by simp +contextual
    _ = (b.answers l).countP (·.success) := by
        rw [← hsnd, List.countP_map]
        rfl
    _ = (List.range' 1 b.readings.length).countP (· ≤ l.limit.toNat) := by
        rw [Batch.answers, List.countP_map]
        rfl
    _ ≤ l.limit.toNat := countP_range'_le _ _

theorem exists_of_passedIn_ne_zero (h : passedIn a e (b.calls l) ≠ 0) :
    ∃ t ∈ b.readings, a ≤ t ∧ t < e := by
  obtain ⟨call, hcall, hin⟩ := List.countP_pos_iff.1 (Nat.pos_of_ne_zero h)
  have hin := of_decide_eq_true hin
  exact ⟨call.1, (List.of_mem_zip hcall).1, hin.1, hin.2.1⟩

theorem passedIn_flatMap_cons (l : WindowLimit) (a e : Instant) (b : Batch) (bs : List Batch) :
    passedIn a e ((b :: bs).flatMap (Batch.calls l)) =
      passedIn a e (b.calls l) + passedIn a e (bs.flatMap (Batch.calls l)) := by
  rw [List.flatMap_cons, passedIn, List.countP_append]
  rfl

/-- Batches that open when the interval is over have no requests in it. -/
theorem passedIn_eq_zero (hlate : ∀ b ∈ bs, e ≤ b.opening)
    (hopens : ∀ b ∈ bs, ∀ t ∈ b.readings, b.opening ≤ t) :
    passedIn a e (bs.flatMap (Batch.calls l)) = 0 := by
  induction bs with
  | nil => rfl
  | cons b bs ih =>
      rw [List.forall_mem_cons] at hlate hopens
      have hfirst : passedIn a e (b.calls l) = 0 := by
        refine Classical.byContradiction fun hsome => ?_
        obtain ⟨t, ht, -, hbefore⟩ := exists_of_passedIn_ne_zero hsome
        exact Instant.not_lt.2 (Instant.le_trans hlate.1 (hopens.1 t ht)) hbefore
      rw [passedIn_flatMap_cons, hfirst, ih hlate.2 hopens.2]

section Interval

variable (hordered : bs.Pairwise (Batch.Precedes l.length))
  (hopens : ∀ b ∈ bs, ∀ t ∈ b.readings, b.opening ≤ t)
  (hleap : ∀ b ∈ bs, a ≤ b.opening → b.opening < a.later l.length → ¬a.EntersLeap b.opening)

include hordered hopens hleap

/-- Where no batch opens before the interval, only the first that meets it has requests in it. -/
theorem passedIn_le_of_le_opening (hlate : ∀ b ∈ bs, a ≤ b.opening) :
    passedIn a (a.later l.length) (bs.flatMap (Batch.calls l)) ≤ l.limit.toNat := by
  -- Batches are passed over until one meets the interval; its window ends no sooner than the interval.
  induction bs with
  | nil => exact Nat.zero_le _
  | cons b bs ih =>
      rw [List.forall_mem_cons] at hopens hleap hlate
      obtain ⟨hprecedes, hordered⟩ := List.pairwise_cons.1 hordered
      rw [passedIn_flatMap_cons]
      by_cases hnone : passedIn a (a.later l.length) (b.calls l) = 0
      · have hrest := ih hordered hopens.2 hleap.2 hlate.2
        omega
      · obtain ⟨t, ht, -, hbefore⟩ := exists_of_passedIn_ne_zero hnone
        have hin := Instant.lt_of_le_of_lt (hopens.1 t ht) hbefore
        have hends := Instant.later_le_later hlate.1 (hleap.1 hlate.1 hin) l.length_nonneg
        rw [passedIn_eq_zero (fun c hc => Instant.le_trans hends (hprecedes c hc).ends_le) hopens.2]
        exact passedIn_calls_le l a _ b

/-- Only the first batch that meets the interval may open before it. -/
theorem passedIn_le :
    passedIn a (a.later l.length) (bs.flatMap (Batch.calls l)) ≤ 2 * l.limit.toNat := by
  induction bs with
  | nil => exact Nat.zero_le _
  | cons b bs ih =>
      rw [List.forall_mem_cons] at hopens hleap
      obtain ⟨hprecedes, hordered⟩ := List.pairwise_cons.1 hordered
      rw [passedIn_flatMap_cons]
      by_cases hnone : passedIn a (a.later l.length) (b.calls l) = 0
      · have hrest := ih hordered hopens.2 hleap.2
        omega
      · obtain ⟨t, ht, hfrom, -⟩ := exists_of_passedIn_ne_zero hnone
        have hrest := passedIn_le_of_le_opening hordered hopens.2 hleap.2 fun c hc =>
          Instant.le_trans hfrom ((hprecedes c hc).le_opening t ht)
        have hfirst := passedIn_calls_le l a (a.later l.length) b
        omega

end Interval

/-- Only the first request of a window opens it: the others come before it ends. -/
theorem lt_later_of_mem_others (hb : b ∈ batches d ts) (hnow : now ∈ b.others) :
    now < b.opening.later d := by
  fun_induction batches d ts with
  | case1 => cases hb
  | case2 s ts ih =>
      rcases List.mem_cons.1 hb with rfl | hb
      · simpa using List.all_eq_true.1 (List.all_takeWhile (l := ts)) now hnow
      · exact ih hb

end Window

namespace RateTable

open Window

variable {partition subject : String} {l : WindowLimit} {run : List (Instant × Request)}
  {ts : List Instant} {t : RateTable Float}

theorem fold_increments (w : Option Window) (ts : List Instant) :
    ((windowThread partition subject).fold w (ts.map fun now => (now, .increment l))).map
        (fun x => (.ok x.2 : Except (Failure Error) Reply)) =
      (answers l w ts).map fun r => .ok (.result r) := by
  induction ts generalizing w with
  | nil => rfl
  | cons now ts ih => exact congrArg _ (ih _)

/-- In a run that only counts in a window, its requests answer like those to a lone one. -/
theorem increments_answer (hrun : InTime run)
    (hnew : ∀ key, storageKey partition subject = .ok key → t.windows.get? key = none)
    (hcalls : (windowThread partition subject).calls run = ts.map fun now => (now, .increment l)) :
    ((windowThread partition subject).entries run t).map Prod.fst =
      (answers l none ts).map fun r => .ok (.result r) := by
  have hentries := (windowThread_follows partition subject).entries_eq hrun
    (fun call _ key hkey => .inl (hnew key hkey)) ((windowThread partition subject).fits_true none _)
  rw [hentries, hcalls]
  exact fold_increments none ts

/-- The longest window that a limit may have. -/
def longestWindow : Duration := .ofMillis maxWindowMs

theorem length_le_longestWindow (l : WindowLimit) : l.length.ns ≤ longestWindow.ns := by
  unfold WindowLimit.length longestWindow Duration.ofMillis
  dsimp only
  omega

theorem le_minuteBeforeLatest {now : Instant} (h : now.ns + longestWindow.ns ≤ Instant.latest.ns) :
    now ≤ .minuteBeforeLatest := by
  have hlongest : longestWindow.ns = 31622400000000000 := rfl
  have hlatest : Instant.latest.ns = latestSecond * 1000000000 + 999999999 := rfl
  have hsecond : Instant.minuteBeforeLatest.second = latestSecond - 60 := rfl
  unfold Instant.ns at *
  rw [Instant.le_def]
  omega

/-- The requests that a run makes about one window fall into batches, each numbered from its first
request, which opens the window, up to the window's end. In an interval as long as a window at most
twice as many pass as the limit says, unless a window opens there in a leap second that the interval
begins before in the same second. -/
theorem windows_admit (hordered : (run.map Prod.fst).Pairwise (· ≤ ·))
    (hearly : ∀ call ∈ run, call.1.ns + longestWindow.ns ≤ Instant.latest.ns)
    (hlimit : l.limit.toNat < UInt64.size - 1)
    (hnew : ∀ key, storageKey partition subject = .ok key → t.windows.get? key = none)
    (hcalls : (windowThread partition subject).calls run = ts.map fun now => (now, .increment l)) :
    let bs := batches l.length ts
    let rs := bs.flatMap (Batch.answers l)
    ((windowThread partition subject).entries run t).map Prod.fst =
        rs.map (fun r => .ok (.result r)) ∧
      bs.flatMap Batch.readings = ts ∧ bs.Pairwise (Batch.Precedes l.length) ∧
      (∀ b ∈ bs, b.opening.add? l.length = some (b.opening.later l.length) ∧
        ∀ now ∈ b.others, b.opening ≤ now ∧ now < b.opening.later l.length) ∧
      ∀ a : Instant,
        (∀ b ∈ bs, a ≤ b.opening → b.opening < a.later l.length → ¬a.EntersLeap b.opening) →
        passedIn a (a.later l.length) (ts.zip rs) ≤ 2 * l.limit.toNat := by
  intro bs rs
  have hrun : InTime run := ⟨hordered, fun call hcall => le_minuteBeforeLatest (hearly call hcall)⟩
  have hreadings : bs.flatMap Batch.readings = ts := flatMap_readings_batches l.length ts
  have htimes : ((windowThread partition subject).calls run).map Prod.fst = ts := by
    simp [hcalls, Function.comp_def]
  have hsublist := htimes ▸ (windowThread partition subject).readings_sublist run
  obtain ⟨hprecede, hopens⟩ := batches_ordered (d := l.length) (hordered.sublist hsublist)
  have hopening : ∀ b ∈ bs, ∃ call ∈ run, call.1 = b.opening := fun b hb =>
    List.mem_map.1 (hsublist.mem (hreadings ▸ List.mem_flatMap.2 ⟨b, hb, List.mem_cons_self⟩))
  refine ⟨?_, hreadings, hprecede, fun b hb => ⟨?_, fun now hnow => ⟨?_, ?_⟩⟩, fun a hleap => ?_⟩
  · rw [increments_answer hrun hnew hcalls, answers_eq_flatMap_batches hlimit]
  · obtain ⟨call, hcall, hat⟩ := hopening b hb
    have hsum := Instant.add?_isSome (t := b.opening) l.length_nonneg (by
      have hend := hat ▸ hearly call hcall
      have hlength := length_le_longestWindow l
      omega)
    obtain ⟨u, hu⟩ := Option.isSome_iff_exists.1 hsum
    rw [Instant.later, hu]
    rfl
  · exact hopens b hb now (List.mem_cons_of_mem _ hnow)
  · exact lt_later_of_mem_others hb hnow
  · have hbound := passedIn_le hprecede hopens hleap
    rwa [← zip_answers_eq, hreadings] at hbound

/-- Three requests for one window, the last when it has ended, around one for another window. -/
def twoWindows : List (Instant × Request) :=
  [(.epoch, .increment "api" "a" ⟨1, 1000⟩),
    (.later .epoch (.ofMillis 999), .increment "api" "b" ⟨1, 1⟩),
    (.later .epoch (.ofMillis 999), .increment "api" "a" ⟨1, 1000⟩),
    (.later .epoch (.ofMillis 1000), .increment "api" "a" ⟨1, 1000⟩)]

theorem twoWindows_admit :
    let half := Instant.epoch.later (.ofMillis 500)
    let ts := [.epoch, .later .epoch (.ofMillis 999), .later .epoch (.ofMillis 1000)]
    let rs := [⟨true, 0, .later .epoch (.ofMillis 1000)⟩, ⟨false, 0, .later .epoch (.ofMillis 1000)⟩,
      ⟨true, 0, .later .epoch (.ofMillis 2000)⟩]
    ((windowThread "api" "a").entries twoWindows {}).map Prod.fst =
        rs.map (fun r => .ok (.result r)) ∧
      passedIn half (half.later (.ofMillis 1000)) (ts.zip rs) ≤ 2 := by
  intro half ts rs
  have hcalls : (windowThread "api" "a").calls twoWindows =
      ts.map fun now => (now, .increment ⟨1, 1000⟩) := rfl
  obtain ⟨hentries, -, -, -, hbound⟩ := windows_admit (t := {}) (by decide) (by decide) (by decide)
    (fun _ _ => rfl) hcalls
  have hrs : (batches (.ofMillis 1000) ts).flatMap (Batch.answers ⟨1, 1000⟩) = rs := by decide +kernel
  have hopenings : ∀ b ∈ batches (.ofMillis 1000) ts, b.opening.inLeapSecond = false := by
    decide +kernel
  have hpassed := hbound half fun b hb _ _ henters =>
    Bool.noConfusion ((hopenings b hb).symm.trans henters.2.2)
  exact ⟨hrs ▸ hentries, hrs ▸ hpassed⟩

/-- Three requests in a leap second may each open a window that ends before the next request, while an
interval of the same length that begins before the leap second still meets the third. -/
theorem third_passes_around_leap_second :
    ¬∀ (l : WindowLimit) (run : List (Instant × Request)) (ts : List Instant) (rs : List LimitResult)
        (a : Instant),
      l.fault? = none → (run.map Prod.fst).Pairwise (· ≤ ·) →
      (∀ call ∈ run, call.1.ns + longestWindow.ns ≤ Instant.latest.ns) →
      l.limit.toNat < UInt64.size - 1 →
      (windowThread "api" "a").calls run = ts.map (fun now => (now, .increment l)) →
      ((windowThread "api" "a").entries run {}).map Prod.fst = rs.map (fun r => .ok (.result r)) →
      passedIn a (a.later l.length) (ts.zip rs) ≤ 2 * l.limit.toNat := by
  intro h
  let leap (nanos : Nat) (hn : nanos < 2000000000) : Instant :=
    ⟨1483228799, nanos, by decide, by decide, hn⟩
  let ts : List Instant :=
    [leap 1000000000 (by decide), leap 1100000000 (by decide), leap 1200000000 (by decide)]
  let run : List (Instant × Request) := ts.map fun now => (now, .increment "api" "a" ⟨1, 100⟩)
  have hordered : (run.map Prod.fst).Pairwise (· ≤ ·) := by decide
  have hearly : ∀ call ∈ run, call.1.ns + longestWindow.ns ≤ Instant.latest.ns := by decide
  have hcalls : (windowThread "api" "a").calls run = ts.map fun now => (now, .increment ⟨1, 100⟩) :=
    rfl
  have hanswers := increments_answer
    ⟨hordered, fun call hcall => le_minuteBeforeLatest (hearly call hcall)⟩ (t := {}) (fun _ _ => rfl)
    hcalls
  have hbound := h ⟨1, 100⟩ run ts _ (leap 950000000 (by decide)) (by decide) hordered hearly (by decide)
    hcalls hanswers
  revert hbound
  decide +kernel

end RateTable

end Latchkey
