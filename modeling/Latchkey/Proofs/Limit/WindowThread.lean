import Latchkey.Proofs.Limit.Request
/-!
# Windows keep to their own requests

The window of one subject in a partition goes through the steps of the requests about it that are
accepted, and through no others. Requests about other subjects, requests about its bucket, refused ones
and pruning at most drop it when it has ended, and then it reads as it would have read anyway.
-/

namespace Latchkey.RateTable

open Act Window

/-- What is asked about a window. -/
inductive WindowCall where
  | increment (l : WindowLimit)
  | check (l : WindowLimit)
  | reset

/-- What a request asks about the window of its subject. -/
def Request.windowCall? : Request → Option WindowCall
  | increment _ _ l => some (.increment l)
  | check _ _ l => some (.check l)
  | reset _ _ => some .reset
  | _ => none

def WindowCall.step (now : Instant) (w : Option Window) : WindowCall → Option Window × Reply
  | increment l => (some (Window.increment w now l).1, .result (Window.increment w now l).2)
  | check l => (w, .result (Window.peek w now l))
  | reset => (none, .done)

/-- The accepted requests about the window of a subject. -/
def windowThread (partition subject : String) : Thread WindowCall (Option Window) where
  own q := if q.refusal? = none ∧ q.subject? = some (partition, subject) then q.windowCall? else none
  step now w c := c.step now w

variable {partition subject key : String} {now : Instant}

/-- What the thread has come to, or nothing where that is a window that has ended. -/
def KeepsWindow (partition subject : String) (now : Instant) (w : Option Window) (t : RateTable Float) :
    Prop :=
  ∀ key, storageKey partition subject = .ok key → LeftAlone now w (t.windows.get? key)

/-- A request that is not about a window leaves it alone. -/
theorem act_leaves_window {q : Request} (hkey : storageKey partition subject = .ok key)
    (hown : (windowThread partition subject).own q = none) :
    (q.act now).Within (fun t => t.windows.get? key) (LeftAlone now) := by
  refine Request.act_within_of_other (windows_prunesWithin now key) hkey hown
    fun hother t t' hwrites => ?_
  cases hwrites with
  | window w hkey' =>
      have hne := hother rfl nofun hkey'
      dsimp only
      rw [Table.get?_insert, if_neg hne]
      exact refl_of _ _
  | bucket b hkey' => exact refl_of _ _
  | reset hkey' =>
      have hne := hother rfl nofun hkey'
      dsimp only
      rw [Table.get?_erase, if_neg hne]
      exact refl_of _ _

theorem act_increment {l : WindowLimit} {w : Option Window} {t : RateTable Float}
    (hfit : l.fault? = none) (hkey : storageKey partition subject = .ok key)
    (hnow : now ≤ .minuteBeforeLatest) (hw : LeftAlone now w (t.windows.get? key)) :
    ∃ t', (Request.increment partition subject l).act now t =
        (.ok (.result (Window.increment w now l).2), t') ∧
      t'.windows.get? key = some (Window.increment w now l).1 := by
  have hnext : next (t.windows.get? key) now l = next w now l := by
    unfold next
    rw [hw.live?_eq (Instant.le_refl now)]
  rcases increment_cases now hfit hkey t with ⟨t', ht', -⟩ | ⟨t', ht', hafter⟩
  · exact absurd (congrArg Prod.fst ht') (increment_answers (Instant.add?_minute_isSome hnow) t)
  · rw [hnext] at ht' hafter
    exact ⟨t', bind_ok ht', hafter⟩

theorem windowThread_own_iff {q : Request} {c : WindowCall} :
    (windowThread partition subject).own q = some c ↔
      q.refusal? = none ∧ q.subject? = some (partition, subject) ∧ q.windowCall? = some c := by
  unfold windowThread
  dsimp only
  rw [Option.ite_none_right_eq_some, and_assoc]

theorem windowThread_follows (partition subject : String) :
    (windowThread partition subject).Follows (KeepsWindow partition subject) (fun _ _ _ => True)
      Prod.fst fun x => .ok x.2 where
  mono h hlater key hkey := (h key hkey).mono hlater
  other hown h key hkey := trans_of _ (h key hkey) (act_leaves_window hkey hown _)
  own := by
    intro now q c w t hown hnow _ h
    obtain ⟨hrefusal, hsubject, hcall⟩ := windowThread_own_iff.1 hown
    cases q with
    | increment p x l =>
        cases hsubject
        cases hcall
        obtain ⟨hfit, hfree⟩ := Option.or_eq_none_iff.1 hrefusal
        have hkey := Request.keyFault?_eq_none_iff.1 hfree
        obtain ⟨t', hact, hafter⟩ := act_increment hfit hkey hnow (h _ hkey)
        rw [hact]
        refine ⟨rfl, fun key' hkey' => ?_⟩
        rw [hkey] at hkey'
        cases hkey'
        exact .inl hafter
    | check p x l =>
        cases hsubject
        cases hcall
        obtain ⟨hfit, hfree⟩ := Option.or_eq_none_iff.1 hrefusal
        have hkey := Request.keyFault?_eq_none_iff.1 hfree
        have hcheck : (Request.check partition subject l).act now t = _ :=
          bind_ok (check_apply hfit hkey t)
        have hpeek : peek (t.windows.get? (partition ++ ":" ++ subject)) now l = peek w now l := by
          unfold peek
          rw [(h _ hkey).live?_eq (Instant.le_refl now)]
        rw [hcheck, hpeek]
        exact ⟨rfl, h⟩
    | reset p x =>
        cases hsubject
        cases hcall
        have hkey := Request.keyFault?_eq_none_iff.1 hrefusal
        have hreset : (Request.reset partition subject).act now t = _ := bind_ok (reset_apply hkey t)
        rw [hreset]
        refine ⟨rfl, fun key' hkey' => .inl ?_⟩
        rw [hkey] at hkey'
        cases hkey'
        change (t.windows.erase _).get? _ = none
        rw [Table.get?_erase, if_pos rfl]
    | consume p x l cost => cases hcall
    | purge => cases hcall

theorem windows_entries_eq (partition subject : String) {run : List (Instant × Request)}
    (hrun : InTime run) :
    ((windowThread partition subject).entries run {}).map Prod.fst =
      ((windowThread partition subject).fold none ((windowThread partition subject).calls run)).map
        fun x => .ok x.2 := by
  refine (windowThread_follows partition subject).entries_eq hrun (fun _ _ _ _ => .inl rfl) ?_
  exact (windowThread partition subject).fits_true _ _

/-- The requests about a window answer what they would if there were no others, beginning with no window
and again with none after each reset. So whatever else is in a run may be left out of it: requests about
other windows and about buckets, prunings, and refused requests, which change nothing. -/
theorem windows_keep_to_their_own (partition subject : String) {run : List (Instant × Request)}
    (hrun : InTime run) :
    ((windowThread partition subject).entries run {}).map Prod.fst =
        ((windowThread partition subject).fold none ((windowThread partition subject).calls run)).map
          (fun x => .ok x.2) ∧
      (∀ part, part.Sublist run →
        (windowThread partition subject).calls part = (windowThread partition subject).calls run →
        ((windowThread partition subject).entries part {}).map Prod.fst =
          ((windowThread partition subject).entries run {}).map Prod.fst) ∧
      ∀ call ∈ run, ∀ f, call.2.refusal? = some f →
        ∀ t, call.2.act call.1 t = (.error (.error f.toError), t) := by
  refine ⟨windows_entries_eq partition subject hrun, fun part hpart hcalls => ?_, fun call _ f hf t =>
    Request.act_of_refusal? hf call.1 t⟩
  rw [windows_entries_eq partition subject hrun,
    windows_entries_eq partition subject (hrun.sublist hpart), hcalls]

/-- A window that has ended is dropped by a request about another one, and opens anew all the same. -/
theorem window_opens_anew :
    let l : WindowLimit := ⟨1, 1000⟩
    let later := Instant.epoch.later (.ofSeconds 61)
    let run : List (Instant × Request) := [(.epoch, .increment "api" "a" l), (.epoch, .check "api" "a" l),
      (later, .increment "api" "b" l), (later, .increment "a:b" "a" l), (later, .purge),
      (later, .increment "api" "a" l)]
    ((windowThread "api" "a").entries run {}).map Prod.fst =
      [.ok (.result ⟨true, 0, .later .epoch (.ofSeconds 1)⟩),
        .ok (.result ⟨false, 0, .later .epoch (.ofSeconds 1)⟩),
        .ok (.result ⟨true, 0, .later later (.ofSeconds 1)⟩)] := by
  intro l later run
  have hrun : InTime run := ⟨by decide, by decide⟩
  have hfold : (windowThread "api" "a").fold none ((windowThread "api" "a").calls run) =
      [(some ⟨1, .later .epoch (.ofSeconds 1)⟩, .result ⟨true, 0, .later .epoch (.ofSeconds 1)⟩),
        (some ⟨1, .later .epoch (.ofSeconds 1)⟩, .result ⟨false, 0, .later .epoch (.ofSeconds 1)⟩),
        (some ⟨1, .later later (.ofSeconds 1)⟩, .result ⟨true, 0, .later later (.ofSeconds 1)⟩)] := by
    decide +kernel
  rw [(windows_keep_to_their_own "api" "a" hrun).1, hfold]
  rfl

end Latchkey.RateTable
