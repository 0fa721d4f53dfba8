import LinuxAgent.ProcInfo.Process

/-!
# Start times

The start of a process is counted back from the current time, by the ticks from the start of
the process to the uptime. The uptime is cut to whole seconds first, so that a process may
have been started after it: the subtraction of the ticks then wraps around.
-/

namespace LinuxAgent.ProcInfo

/-- A number of hundredths in seconds, with two decimals. -/
def inSeconds (hundredths : ℕ) : String :=
  toString (hundredths / 100) ++ "." ++
    String.ofList [Nat.digitChar (hundredths % 100 / 10), Nat.digitChar (hundredths % 10)]

/-- `/proc/uptime`: the uptime and the time that the processors were idle. -/
def uptimeData (uptime idle : ℕ) : String := inSeconds uptime ++ " " ++ inSeconds idle ++ "\n"

/-- What is read of the uptime are its whole seconds. -/
theorem uptimeSec_uptimeData {uptime : ℕ} (h : uptime < UInt64.size) (idle : ℕ) :
    uptimeSec (uptimeData uptime idle) = UInt64.ofNat (uptime / 100) := by
  have hdot : '.' ∉ (toString (uptime / 100)).toList := Text.not_mem_toString (by decide) _
  have htext : (uptimeData uptime idle).toList = (toString (uptime / 100)).toList ++ '.' ::
      (Nat.digitChar (uptime % 100 / 10) :: Nat.digitChar (uptime % 10) ::
        (" " ++ inSeconds idle ++ "\n").toList) := by
    simp [uptimeData, inSeconds]
  have hhead : (Text.split '.' (uptimeData uptime idle)).head? =
      some (toString (uptime / 100)) := by
    have hne : ∀ c ∈ (toString (uptime / 100)).toList, decide (c ≠ '.') = true := by
      intro c hc
      exact decide_eq_true (ne_of_mem_of_not_mem hc hdot)
    rw [Text.head?_split, htext, List.takeWhile_append_of_pos hne,
      List.takeWhile_cons_of_neg (by decide), List.append_nil, String.ofList_toList]
  have hsize : uptime / 100 < UInt64.size := Nat.lt_of_le_of_lt (Nat.div_le_self _ _) h
  rw [uptimeSec]
  simp only [hhead, Text.toList_toString, Text.parseU64_toDigits hsize, Option.getD_some]

/-- How many seconds a start is counted back. -/
def secondsBack (uptimeSec startJiffies : UInt64) : ℕ :=
  ((uptimeSec * 100 - startJiffies) / 100).toNat

/-- The seconds that a start is counted back keep their value with a sign. -/
theorem secondsBack_lt (sec ticks : UInt64) : secondsBack sec ticks < 9223372036854775808 := by
  have hlt := (sec * 100 - ticks).toNat_lt
  have hhundred : (100 : UInt64).toNat = 100 := rfl
  rw [secondsBack, UInt64.toNat_div, hhundred]
  omega

/-- The seconds that a start is counted back, for an uptime that is not too long. -/
theorem secondsBack_eq {sec ticks : UInt64} (hsec : sec.toNat < 10995116278) :
    secondsBack sec ticks = (18446744073709551616 - ticks.toNat + 100 * sec.toNat) %
      18446744073709551616 / 100 := by
  have hhundred : (100 : UInt64).toNat = 100 := rfl
  have hmul : (sec * 100).toNat = 100 * sec.toNat := by
    rw [UInt64.toNat_mul, hhundred]
    omega
  rw [secondsBack, UInt64.toNat_div, UInt64.toNat_sub, hmul, hhundred]

/-- The seconds that a start is counted back, if the uptime in whole seconds is not before it. -/
theorem secondsBack_of_le {sec ticks : UInt64} (hsec : sec.toNat < 10995116278)
    (h : ticks.toNat ≤ 100 * sec.toNat) :
    secondsBack sec ticks = (100 * sec.toNat - ticks.toNat) / 100 := by
  rw [secondsBack_eq hsec]
  omega

/-- The seconds that a start is counted back wrap around, if the uptime in whole seconds is
before it. -/
theorem le_secondsBack_of_lt {sec ticks : UInt64} (hsec : sec.toNat < 10995116278)
    (h : 100 * sec.toNat < ticks.toNat) (hticks : ticks.toNat < 100 * sec.toNat + 100) :
    184467440737095515 ≤ secondsBack sec ticks := by
  rw [secondsBack_eq hsec]
  omega

/-- A start is counted back from the current time, and wraps around to the times after it. -/
theorem toInt_processStart (sec ticks : UInt64) (now : Int64) :
    (processStart sec ticks now).toInt =
      if -9223372036854775808 ≤ now.toInt - secondsBack sec ticks then
        now.toInt - secondsBack sec ticks
      else now.toInt - secondsBack sec ticks + 18446744073709551616 := by
  have hback := secondsBack_lt sec ticks
  have hsigned : ((sec * 100 - ticks) / 100).toInt64.toInt = (secondsBack sec ticks : ℤ) := by
    have htoInt : ((sec * 100 - ticks) / 100).toInt64.toInt =
        ((sec * 100 - ticks) / 100).toBitVec.toInt := rfl
    rw [htoInt, BitVec.toInt_eq_toNat_bmod]
    change Int.bmod (secondsBack sec ticks : ℤ) _ = _
    rw [Int.bmod_eq_of_le (by omega) (by omega)]
  have hlow := now.le_toInt
  have hhigh := now.toInt_lt
  rw [processStart, Int64.toInt_sub, hsigned, Int.bmod_def]
  split <;> split <;> omega

/-- A start lies between the boot of the system, up to a second, and the current time. -/
def InRange (uptime : ℕ) (now start : Int64) : Prop :=
  now.toInt - (uptime / 100 : ℕ) - 1 ≤ start.toInt ∧ start.toInt ≤ now.toInt

/-- `get_start_time` computes one start, for all ways to write it down. -/
theorem getStartTime_eq_iff {uptime idle : ℕ} {ticks : UInt64} {stat : String}
    (huptime : uptime < UInt64.size)
    (hstat : (Text.words stat)[21]? = some (toString ticks.toNat)) (now start : Int64) :
    (∀ formatTimestamp, getStartTime formatTimestamp (.ok stat) (.ok (uptimeData uptime idle)) now =
        .ok (formatTimestamp start)) ↔
      processStart (UInt64.ofNat (uptime / 100)) ticks now = start := by
  have hcompute (formatTimestamp : Int64 → String) :
      getStartTime formatTimestamp (.ok stat) (.ok (uptimeData uptime idle)) now =
        .ok (formatTimestamp (processStart (UInt64.ofNat (uptime / 100)) ticks now)) := by
    rw [getStartTime]
    simp only [bind, Except.bind, hstat, Text.parseU64_toString, uptimeSec_uptimeData huptime,
      UInt64.ofNat_toNat]
  constructor
  · intro h
    have hmark := h fun t => if t = start then "start" else ""
    rw [hcompute] at hmark
    by_contra hne
    simp [hne] at hmark
  · rintro rfl
    exact hcompute

/-- A start tick up to the uptime is counted back to a time between boot and now if and only
if it does not lie in the second that the uptime has not completed, and the seconds that it is
counted back do not lead below the least time. -/
theorem start_in_range_iff {uptime idle : ℕ} {ticks : UInt64} {stat : String}
    (huptime : uptime < 1099511627776) (hticks : ticks.toNat ≤ uptime)
    (hstat : (Text.words stat)[21]? = some (toString ticks.toNat)) (now : Int64) :
    (∃ start, (∀ formatTimestamp,
        getStartTime formatTimestamp (.ok stat) (.ok (uptimeData uptime idle)) now =
          .ok (formatTimestamp start)) ∧ InRange uptime now start) ↔
      ticks.toNat ≤ 100 * (uptime / 100) ∧
        -9223372036854775808 ≤ now.toInt - ((100 * (uptime / 100) - ticks.toNat) / 100 : ℕ) := by
  have hsize : uptime < UInt64.size := Nat.lt_trans huptime (by decide)
  have hsec : (UInt64.ofNat (uptime / 100)).toNat = uptime / 100 := by
    rw [UInt64.toNat_ofNat', Nat.mod_eq_of_lt (Nat.lt_of_le_of_lt (Nat.div_le_self _ _) hsize)]
  have hshort : (UInt64.ofNat (uptime / 100)).toNat < 10995116278 := by
    rw [hsec]
    omega
  have hhigh := now.toInt_lt
  simp only [getStartTime_eq_iff hsize hstat, exists_eq_left', InRange, toInt_processStart]
  by_cases hwhole : ticks.toNat ≤ 100 * (uptime / 100)
  · have hback := @secondsBack_of_le _ ticks hshort (by rw [hsec]; exact hwhole)
    rw [hsec] at hback
    rw [hback]
    split <;> omega
  · have hafter : 100 * (UInt64.ofNat (uptime / 100)).toNat < ticks.toNat := by
      rw [hsec]
      omega
    have hbefore : ticks.toNat < 100 * (UInt64.ofNat (uptime / 100)).toNat + 100 := by
      rw [hsec]
      omega
    have hback := le_secondsBack_of_lt hshort hafter hbefore
    have hsign := secondsBack_lt (UInt64.ofNat (uptime / 100)) ticks
    split <;> omega

/-- A `stat` line of a process that was started 30 s after boot. -/
def startedStat : String :=
  "7 (cat) S 1 7 7 0 -1 0 0 0 0 0 0 0 0 0 20 0 1 0 3000 0"

/-- A process that was started after half a minute has a start time in range. -/
theorem start_in_range_30s :
    ∃ start, (∀ formatTimestamp,
      getStartTime formatTimestamp (.ok startedStat) (.ok (uptimeData 3150 0)) 1700000000 =
        .ok (formatTimestamp start)) ∧ InRange 3150 1700000000 start :=
  (@start_in_range_iff 3150 0 3000 startedStat (by decide) (by decide) (by decide)
    1700000000).mpr (by decide)

/-- A process that is started 1.2 s after boot and read at 1.5 s starts in the far past. -/
theorem fresh_process_in_far_past :
    ¬∀ (uptime idle : ℕ) (ticks : UInt64) (stat : String) (now : Int64),
      uptime < 1099511627776 → ticks.toNat ≤ uptime →
      (Text.words stat)[21]? = some (toString ticks.toNat) →
      ∃ start, (∀ formatTimestamp,
        getStartTime formatTimestamp (.ok stat) (.ok (uptimeData uptime idle)) now =
          .ok (formatTimestamp start)) ∧ InRange uptime now start := by
  intro h
  obtain ⟨start, hstart, hlow, -⟩ := h 150 0 120
    "7 (cat) S 1 7 7 0 -1 0 0 0 0 0 0 0 0 0 20 0 1 0 120 0" 1700000000 (by decide) (by decide)
    (by decide)
  rw [@getStartTime_eq_iff _ _ 120 _ (by decide) (by decide)] at hstart
  rw [← hstart] at hlow
  exact absurd hlow (by decide)

end LinuxAgent.ProcInfo
