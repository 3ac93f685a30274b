import EdgeSentinel.Monitor.System
import Mathlib.Tactic.Positivity
import Mathlib.Tactic.Linarith

/-!
# The usage of the disk

`get_disk_info` multiplies the block counts of `statvfs` by the size of a block, subtracts and
adds, all in 64 bits, and checks none of the counts. `get_memory_info` refuses readings that do not
fit together; `get_disk_info` takes them as they are.

## What is proved

* `usagePercent_le_iff` — when the used part is not more than everything.
* `consistent_getDiskInfo_iff` — **what is returned fits together** exactly if the counts do, in
  the 64 bits that they are calculated with.
* `consistent_of_plausible` — which is so for a file system with no more free blocks than blocks,
  and fewer than 2⁶⁴ bytes.
-/

namespace EdgeSentinel.Monitor

open CLib

/-- What is returned of the disk fits together: -/
structure DiskInfo.Consistent (info : DiskInfo) : Prop where
  /-- no more is used than there is, -/
  used_le : info.usedBytes ≤ info.totalBytes
  /-- no more is available than there is, -/
  available_le : info.availableBytes ≤ info.totalBytes
  /-- and the used part is a percentage. -/
  usage : ∃ q, info.usagePercent = .finite q ∧ 0 ≤ q ∧ q ≤ 100

/-- Blocks, in bytes, in 64 bits. -/
def Statvfs.bytes (filesystem : Statvfs) (blocks : UInt64) : ℕ :=
  blocks.toNat * filesystem.frsize.toNat % 2 ^ 64

/-- The counts of `statvfs` fit together, in 64 bits: there is no more free, and no more available,
than there is, and what is not free and what is available do not add up to more than 2⁶⁴. -/
structure Statvfs.Consistent (filesystem : Statvfs) : Prop where
  /-- The free blocks. -/
  free_le : filesystem.bytes filesystem.bfree ≤ filesystem.bytes filesystem.blocks
  /-- The available blocks. -/
  available_le : filesystem.bytes filesystem.bavail ≤ filesystem.bytes filesystem.blocks
  /-- What is not free, and what is available. -/
  sum_le : filesystem.bytes filesystem.blocks - filesystem.bytes filesystem.bfree +
    filesystem.bytes filesystem.bavail ≤ 2 ^ 64

variable {filesystem : Statvfs} {info : DiskInfo} {total free used available : UInt64}

theorem toNat_mul_frsize (filesystem : Statvfs) (blocks : UInt64) :
    (blocks * filesystem.frsize).toNat = filesystem.bytes blocks :=
  UInt64.toNat_mul _ _

/-- What is free is subtracted in 64 bits. -/
theorem sub_le_iff : total - free ≤ total ↔ free ≤ total := by
  rw [UInt64.le_iff_toNat_le, UInt64.le_iff_toNat_le, UInt64.toNat_sub]
  have htotal := total.toNat_lt
  have hfree := free.toNat_lt
  omega

/-- **The used part** is a percentage exactly if the denominator does not wrap, or wraps to 0. -/
theorem usagePercent_le_iff :
    (if used + available = 0 then (0 : ℚ)
      else (used.toNat : ℚ) / (used + available).toNat * 100) ≤ 100 ↔
      used.toNat + available.toNat ≤ 2 ^ 64 := by
  have hused := used.toNat_lt
  have havailable := available.toNat_lt
  have hsum : (used + available).toNat = (used.toNat + available.toNat) % 2 ^ 64 :=
    UInt64.toNat_add _ _
  split_ifs with hzero
  · rw [hzero, UInt64.toNat_zero] at hsum
    exact iff_of_true (by norm_num) (by omega)
  · have hne : (used + available).toNat ≠ 0 := fun h => hzero (UInt64.toNat_inj.mp h)
    have hpos : (0 : ℚ) < (used + available).toNat := by exact_mod_cast Nat.pos_of_ne_zero hne
    rw [mul_le_iff_le_one_left (by norm_num), div_le_one hpos, Nat.cast_le]
    omega

/-- A quotient is no negative percentage. -/
theorem usagePercent_nonneg :
    (0 : ℚ) ≤ if used + available = 0 then 0
      else (used.toNat : ℚ) / (used + available).toNat * 100 := by
  split_ifs
  · exact le_refl _
  · positivity

/-- The record for some sizes fits together exactly if the sizes do. -/
theorem consistent_iff : DiskInfo.Consistent ⟨total, total - free, available, .finite
      (if total - free + available = 0 then 0
        else ((total - free).toNat : ℚ) / (total - free + available).toNat * 100)⟩ ↔
    free ≤ total ∧ available ≤ total ∧
      total.toNat - free.toNat + available.toNat ≤ 2 ^ 64 := by
  constructor
  · rintro ⟨hused, havailable, q, hq, -, hle⟩
    obtain rfl := Double.finite.inj hq
    have hfree : free ≤ total := sub_le_iff.mp hused
    have hsum := usagePercent_le_iff.mp hle
    rw [UInt64.toNat_sub_of_le _ _ hfree] at hsum
    exact ⟨hfree, havailable, hsum⟩
  · rintro ⟨hfree, havailable, hsum⟩
    rw [← UInt64.toNat_sub_of_le _ _ hfree] at hsum
    exact ⟨sub_le_iff.mpr hfree, havailable, _, rfl, usagePercent_nonneg,
      usagePercent_le_iff.mpr hsum⟩

/-- **`get_disk_info`** returns what fits together exactly if the counts do. -/
theorem consistent_getDiskInfo_iff (statvfs : Option Statvfs) :
    (∀ info, getDiskInfo statvfs = some info → info.Consistent) ↔
      ∀ filesystem, statvfs = some filesystem → filesystem.Consistent := by
  cases statvfs with
  | none => exact iff_of_true nofun nofun
  | some filesystem =>
    have hbytes := @consistent_iff (filesystem.blocks * filesystem.frsize)
      (filesystem.bfree * filesystem.frsize) (filesystem.bavail * filesystem.frsize)
    rw [UInt64.le_iff_toNat_le, UInt64.le_iff_toNat_le, toNat_mul_frsize, toNat_mul_frsize,
      toNat_mul_frsize] at hbytes
    constructor
    · intro h fs hfs
      obtain rfl := Option.some.inj hfs
      obtain ⟨hfree, havailable, hsum⟩ := hbytes.mp (h _ rfl)
      exact ⟨hfree, havailable, hsum⟩
    · intro h info hinfo
      obtain rfl := Option.some.inj hinfo
      obtain ⟨hfree, havailable, hsum⟩ := h filesystem rfl
      exact hbytes.mpr ⟨hfree, havailable, hsum⟩

/-- A file system that reports twice as many free blocks as it has. -/
def twiceFree : Statvfs := ⟨4096, 10, 20, 0⟩

/-- More than everything is used there. -/
theorem twiceFree_inconsistent : ¬ ∀ statvfs info, getDiskInfo statvfs = some info →
    info.Consistent := by
  intro h
  have hused := (h (some twiceFree) _ rfl).used_le
  exact absurd hused (by decide)

/-- A file system of less than 2⁶⁴ bytes, where no more is available than free, and no more free
than there is, is shown as it should be. -/
theorem consistent_of_plausible (hsize : filesystem.blocks.toNat * filesystem.frsize.toNat < 2 ^ 64)
    (hfree : filesystem.bfree ≤ filesystem.blocks)
    (havailable : filesystem.bavail ≤ filesystem.bfree) : filesystem.Consistent := by
  rw [UInt64.le_iff_toNat_le] at hfree havailable
  have hf := Nat.mul_le_mul_right filesystem.frsize.toNat hfree
  have ha := Nat.mul_le_mul_right filesystem.frsize.toNat havailable
  constructor
  all_goals
    simp only [Statvfs.bytes, Nat.mod_eq_of_lt hsize, Nat.mod_eq_of_lt (hf.trans_lt hsize),
      Nat.mod_eq_of_lt ((ha.trans hf).trans_lt hsize)]
    omega

end EdgeSentinel.Monitor
