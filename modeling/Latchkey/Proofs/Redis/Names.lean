import Latchkey.Proofs.Limit.Memory
import Latchkey.Redis.Config
/-!
# Names of what is stored

The name of a stored window or bucket is put together from a partition and a subject, and in Redis a label
and a mark stand before them. The mark of a window is as long as that of a bucket, and a partition has no
colon; so no matter what colons the label and the subject contain, each name comes from one subject, and
says whether it is that of a window or of a bucket.
-/

namespace Latchkey

/-- There are names for the subjects of all partitions without a colon and of no others, and no two subjects
have one name. -/
structure NamesApart (name : String → String → Except LimitFault String) : Prop where
  accepts : ∀ partition subject, (∃ n, name partition subject = .ok n) ↔ ':' ∉ partition.toList
  injective : ∀ {p x q y n}, name p x = .ok n → name q y = .ok n → (p, x) = (q, y)

theorem storageKey_namesApart : NamesApart storageKey where
  accepts partition subject := by simp [storageKey_eq_ok_iff]
  injective := subject_eq_of_storageKey

namespace RedisConfig

variable {c : RedisConfig} {p x q y n mark mark' : String}

/-- The name of a subject under the label, with a mark between them. -/
def marked (c : RedisConfig) (mark partition subject : String) : Except LimitFault String :=
  (storageKey partition subject).map fun key => c.keyLabel ++ mark ++ key

theorem windowKey_eq_marked (c : RedisConfig) : c.windowKey = c.marked ":fw:" := by
  funext partition subject
  unfold windowKey marked
  cases storageKey partition subject <;> rfl

theorem bucketKey_eq_marked (c : RedisConfig) : c.bucketKey = c.marked ":tb:" := by
  funext partition subject
  unfold bucketKey marked
  cases storageKey partition subject <;> rfl

theorem marked_eq_ok_iff :
    c.marked mark p x = .ok n ↔ ∃ key, storageKey p x = .ok key ∧ n = c.keyLabel ++ mark ++ key := by
  unfold marked
  cases storageKey p x <;> simp [Except.map, eq_comm]

theorem marked_namesApart (c : RedisConfig) (mark : String) : NamesApart (c.marked mark) where
  accepts partition subject := by
    rw [← storageKey_namesApart.accepts partition subject]
    constructor
    · rintro ⟨n, h⟩
      obtain ⟨key, hkey, -⟩ := marked_eq_ok_iff.1 h
      exact ⟨key, hkey⟩
    · rintro ⟨key, hkey⟩
      exact ⟨_, marked_eq_ok_iff.2 ⟨key, hkey, rfl⟩⟩
  injective h h' := by
    obtain ⟨key, hkey, rfl⟩ := marked_eq_ok_iff.1 h
    obtain ⟨key', hkey', heq⟩ := marked_eq_ok_iff.1 h'
    obtain rfl : key = key' := by simpa [String.append_assoc] using heq
    exact storageKey_namesApart.injective hkey hkey'

theorem mark_eq_of_marked (hlength : mark.length = mark'.length) (h : c.marked mark p x = .ok n)
    (h' : c.marked mark' q y = .ok n) : mark = mark' := by
  obtain ⟨key, -, rfl⟩ := marked_eq_ok_iff.1 h
  obtain ⟨key', -, heq⟩ := marked_eq_ok_iff.1 h'
  have hlist := congrArg String.toList heq
  simp only [String.toList_append, List.append_assoc, List.append_cancel_left_eq] at hlist
  exact String.toList_inj.1 (List.append_inj_left hlist (by simpa only [String.length_toList] using hlength))

/-- Names tell the subjects apart, in memory and in Redis, and there the windows from the buckets too. -/
theorem stored_names_apart :
    NamesApart storageKey ∧ ∀ c : RedisConfig, NamesApart c.windowKey ∧ NamesApart c.bucketKey ∧
      ∀ p x q y n, c.windowKey p x = .ok n → c.bucketKey q y ≠ .ok n := by
  refine ⟨storageKey_namesApart, fun c => ?_⟩
  rw [windowKey_eq_marked, bucketKey_eq_marked]
  refine ⟨marked_namesApart c _, marked_namesApart c _, fun p x q y n hwindow hbucket => ?_⟩
  exact absurd (mark_eq_of_marked (by decide) hwindow hbucket) (by decide)

/-- The first colon ends the partition, and a label and a subject that look like marks mislead nobody. -/
theorem lookalikes_apart :
    let c : RedisConfig := { keyLabel := "rl:tb" }
    (storageKey "a" "b:c" = .ok "a:b:c" ∧ storageKey "a:b" "c" ≠ .ok "a:b:c") ∧
      c.windowKey "tb" "fw:x" = .ok "rl:tb:fw:tb:fw:x" ∧ c.windowKey "fw" "x" ≠ .ok "rl:tb:fw:tb:fw:x" ∧
      c.bucketKey "fw" "x" ≠ .ok "rl:tb:fw:tb:fw:x" := by
  intro c
  obtain ⟨hkeys, hredis⟩ := stored_names_apart
  obtain ⟨hwindows, -, happart⟩ := hredis c
  have hkey : storageKey "a" "b:c" = .ok "a:b:c" := rfl
  have hwindow : c.windowKey "tb" "fw:x" = .ok "rl:tb:fw:tb:fw:x" := rfl
  refine ⟨⟨hkey, fun h => ?_⟩, hwindow, fun h => ?_, happart _ _ _ _ _ hwindow⟩
  · exact absurd (hkeys.injective hkey h) (by decide)
  · exact absurd (hwindows.injective hwindow h) (by decide)

end RedisConfig

end Latchkey
