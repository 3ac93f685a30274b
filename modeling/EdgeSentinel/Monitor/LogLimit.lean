import EdgeSentinel.Config.Load
import EdgeSentinel.Monitor.LogRotation

/-!
# The limit of the log size

The limit is an unsigned number of 64 bits in the configuration and in the logger. Where it is
compared with the size of the log file it is made an `off_t`, which has a sign: a limit from 2⁶³
on is then below the size of every file.

## What is proved

* `rotated_loggerWrite` — a record is appended behind the rotation, which alone decides about the
  file behind the log file.
* `rotatesAtLimit_iff` — **when the limit is kept to**: a log file is renamed exactly if it has
  reached the limit.
* `run_rotatesAtLimit` — limits that fit an `off_t` are kept to over any calls.
-/

namespace EdgeSentinel.Monitor

open CLib Config

/-- A log file that has reached the limit can be renamed: it is found, the new name fits, and the
operating system allows it. -/
def CanRename (filePath : Bytes) (answers : WriteCalls) : Prop :=
  answers.stat ∧ (rotatedPath filePath).length < loggerPathBufferSize ∧ answers.rename

/-- What the limit is for. A log file with this content -/
structure RotatesAtLimit (filePath : Bytes) (answers : WriteCalls) (limit : UInt64)
    (content : Bytes) (rotated : Option Bytes) : Prop where
  /-- is renamed if and only if it has reached the limit and can be, -/
  renamed_iff : (rotateLogIfNeeded filePath answers limit ⟨some content, rotated⟩).2 =
    ⟨none, some content⟩ ↔ limit.toNat ≤ content.length ∧ CanRename filePath answers
  /-- and below the limit nothing is tried. -/
  below : content.length < limit.toNat →
    rotateLogIfNeeded filePath answers limit ⟨some content, rotated⟩ =
      (answers.stat, ⟨some content, rotated⟩)

variable {filePath level message content : Bytes} {answers : WriteCalls} {limit : UInt64}
  {rotated : Option Bytes} {files : LogFiles}

/-- The file behind the log file is what the rotation makes it. -/
theorem rotated_loggerWrite :
    (loggerWrite filePath level message answers limit files).2.rotated =
      (rotateLogIfNeeded filePath answers limit files).2.rotated := by
  unfold loggerWrite
  rcases rotateLogIfNeeded filePath answers limit files with ⟨_ | _, files'⟩
  · rfl
  · cases answers.timeText with
    | none =>
      dsimp only
      split_ifs <;> rfl
    | some time =>
      dsimp only
      split_ifs <;> rfl

/-- A limit below 2⁶³ is kept to, and so is one that the file has reached. -/
theorem rotatesAtLimit_of
    (h : answers.stat = false ∨ limit.toNat < 2 ^ 63 ∨ limit.toNat ≤ content.length) :
    RotatesAtLimit filePath answers limit content rotated := by
  have hstays : (⟨some content, rotated⟩ : LogFiles) ≠ ⟨none, some content⟩ := by simp
  cases hstat : answers.stat with
  | false =>
    have hsame := @rotateLogIfNeeded_of_not_stat filePath _ limit ⟨some content, rotated⟩ hstat
    rw [← hstat] at hsame
    refine ⟨?_, fun _ => hsame⟩
    rw [hsame]
    exact iff_of_false hstays fun hc => absurd (hstat.symm.trans hc.2.1) (by decide)
  | true =>
    rw [hstat] at h
    by_cases hlt : (content.length : ℤ) < limit.toInt64.toInt
    · have hle := toInt_toInt64_le limit
      refine ⟨?_, fun _ => rotateLogIfNeeded_of_lt hlt⟩
      rw [rotateLogIfNeeded_of_lt hlt]
      exact iff_of_false hstays fun hc => by omega
    · have hle : limit.toNat ≤ content.length := by
        obtain h | h | h := h
        · cases h
        · rw [toInt_toInt64, if_pos h] at hlt
          omega
        · exact h
      refine ⟨?_, fun hbelow => absurd hle (Nat.not_le.mpr hbelow)⟩
      rw [rotateLogIfNeeded_of_not_lt hstat hlt]
      split_ifs with hc
      · exact iff_of_true rfl ⟨hle, hstat, hc⟩
      · exact iff_of_false hstays fun hcan => hc hcan.2.2

/-- **The limit is kept to** exactly if it is below 2⁶³ or the file has reached it anyway, where
the file is found. -/
theorem rotatesAtLimit_iff (filePath : Bytes) (answers : WriteCalls) (limit : UInt64)
    (content : Bytes) (rotated : Option Bytes) :
    RotatesAtLimit filePath answers limit content rotated ↔
      answers.stat = false ∨ limit.toNat < 2 ^ 63 ∨ limit.toNat ≤ content.length := by
  refine ⟨?_, rotatesAtLimit_of⟩
  rintro ⟨-, hbelow⟩
  by_contra hnot
  rw [not_or, not_or, Bool.not_eq_false] at hnot
  obtain ⟨hstat, hlimit, hlength⟩ := hnot
  -- the limit has become negative, and the file is not below it
  have hneg : ¬ (content.length : ℤ) < limit.toInt64.toInt := by
    have hlt := limit.toNat_lt
    rw [toInt_toInt64, if_neg hlimit]
    omega
  have hrotate := hbelow (Nat.lt_of_not_le hlength)
  rw [rotateLogIfNeeded_of_not_lt hstat hneg, hstat] at hrotate
  split_ifs at hrotate
  · cases (Prod.mk.inj hrotate).2
  · cases (Prod.mk.inj hrotate).1

/-- The largest limit there is, which can be configured. -/
def hugeLimit : Bytes := ascii "18446744073709551615"

/-- With this limit a log file of five bytes is renamed. -/
theorem hugeLimit_rotates : ¬ ∀ value config, configSetValue (configSetDefaults .zero)
      Key.logMaxSize.name value = (.ok, config) → configValidate config = none →
    ∀ filePath answers content rotated,
      RotatesAtLimit filePath answers config.logMaxSize content rotated := by
  intro h
  have hset : configSetValue (configSetDefaults .zero) Key.logMaxSize.name hugeLimit =
      (.ok, { configSetDefaults .zero with logMaxSize := UInt64.ofNat ulongMax }) := by
    decide +kernel
  obtain ⟨-, hbelow⟩ := h _ _ hset (by decide +kernel) (ascii "log") (writeAnswers none)
    (ascii "hello") none
  exact absurd (hbelow (by decide)) (by decide)

/-! ### Over any calls -/

/-- A call that does not make the limit too large. -/
def LoggerCall.LimitFits : LoggerCall → Prop
  | .init maxSizeBytes _ => maxSizeBytes.toNat < 2 ^ 63
  | .write _ _ _ => True

variable {l : Log} {c : LoggerCall} {calls : List LoggerCall}

theorem call_limit_lt (hc : c.LimitFits) (hl : l.currentLogMaxSize.toNat < 2 ^ 63) :
    (l.call filePath c).currentLogMaxSize.toNat < 2 ^ 63 := by
  cases c with
  | init maxSizeBytes mkdir =>
    show (loggerInit mkdir filePath maxSizeBytes l.currentLogMaxSize 0).currentLogMaxSize.toNat < _
    by_cases hrefused : filePath = [] ∨ maxSizeBytes = 0
    · unfold loggerInit
      split_ifs <;> first | exact hl | tauto
    · rw [not_or] at hrefused
      rw [loggerInit_currentLogMaxSize _ _ _ hrefused.1 hrefused.2]
      exact hc
  | write level message answers => exact hl

theorem run_limit_lt (hcalls : ∀ c ∈ calls, c.LimitFits) (hl : l.currentLogMaxSize.toNat < 2 ^ 63) :
    (l.run filePath calls).currentLogMaxSize.toNat < 2 ^ 63 :=
  run_keeps (I := fun k => k.currentLogMaxSize.toNat < 2 ^ 63)
    (fun _ c hc h => call_limit_lt (hcalls c hc) h) hl

/-- **Limits that fit** are kept to behind any calls. -/
theorem run_rotatesAtLimit (hcalls : ∀ c ∈ calls, c.LimitFits)
    (hl : l.currentLogMaxSize.toNat < 2 ^ 63) :
    RotatesAtLimit filePath answers (l.run filePath calls).currentLogMaxSize content rotated :=
  rotatesAtLimit_of (.inr (.inl (run_limit_lt hcalls hl)))

end EdgeSentinel.Monitor
