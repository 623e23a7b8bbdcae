import Mathlib.Data.List.Dedup
import TradeCharts.Proofs.Series.Volumes

/-!
Buckets of different widths. The width for a longer window is a multiple of the width for a shorter
one, so a coarse bucket is made up of whole fine ones (`bucketStart_bucketStart`), and the coarse
buckets in use are those that hold a fine one in use (`times_bucketed`).
-/
namespace TradeCharts

namespace Window

variable {width coarse start time : Int}

/-- The widths form a chain, in the order of the windows. -/
theorem bucketWidth_dvd {shorter longer : Int} (h : shorter ≤ longer) :
    bucketWidth shorter ∣ bucketWidth longer := by
  unfold bucketWidth day week month
  split_ifs <;> omega

theorem le_bucketStart (hw : 0 < width) (hd : width ∣ start) (hle : start ≤ time) :
    start ≤ bucketStart time width := by
  obtain ⟨k, rfl⟩ := hd
  rw [bucketStart_eq time hw, Int.mul_comm]
  apply Int.mul_le_mul_of_nonneg_right _ hw.le
  rw [Int.le_ediv_iff_mul_le hw, Int.mul_comm]
  exact hle

/-- A bucket is known by its start: the multiple of the width from which on the time lies within it. -/
theorem eq_bucketStart_iff (hw : 0 < width) :
    start = bucketStart time width ↔ width ∣ start ∧ start ≤ time ∧ time < start + width := by
  constructor
  · rintro rfl
    exact ⟨dvd_bucketStart time width, bucketStart_le time hw, lt_bucketStart_add time hw⟩
  · rintro ⟨hd, hle, hlt⟩
    have hstart := le_bucketStart hw hd hle
    have htime := bucketStart_le time hw
    -- Both starts are multiples of the width and less than one width apart.
    have hdvd : width ∣ bucketStart time width - start :=
      Int.dvd_sub (dvd_bucketStart time width) hd
    have hzero := Int.eq_zero_of_dvd_of_nonneg_of_lt (by omega) (by omega) hdvd
    omega

theorem bucketStart_bucketStart (hw : 0 < width) (hc : 0 < coarse) (hd : width ∣ coarse)
    (time : Int) : bucketStart (bucketStart time width) coarse = bucketStart time coarse := by
  symm
  rw [eq_bucketStart_iff hc]
  have hle := bucketStart_le time hw
  have hlt := lt_bucketStart_add time hc
  refine ⟨dvd_bucketStart time coarse, ?_, by omega⟩
  exact le_bucketStart hw (hd.trans (dvd_bucketStart time coarse)) (bucketStart_le time hc)

end Window

namespace VolumeBuckets

/-- The volumes after some additions, each made at a time. -/
def bucketed (width : Int) (adds : List (Int × Float)) : VolumeBuckets :=
  ofAdditions (adds.map fun a => (Window.bucketStart a.1 width, a.2))

theorem mem_times_bucketed {width start : Int} {adds : List (Int × Float)} :
    start ∈ (bucketed width adds).times ↔ ∃ a ∈ adds, Window.bucketStart a.1 width = start := by
  simp only [bucketed, mem_times_ofAdditions, List.mem_map, exists_exists_and_eq_and]

theorem times_bucketed {width coarse : Int} (hw : 0 < width) (hc : 0 < coarse)
    (hd : width ∣ coarse) (adds : List (Int × Float)) :
    (bucketed coarse adds).times =
      ((bucketed width adds).times.map (Window.bucketStart · coarse)).dedup := by
  have hfine : (bucketed width adds).times.Pairwise (· < ·) :=
    List.pairwise_map.2 (Timeline.ascending _)
  have hcoarse : (bucketed coarse adds).times.Pairwise (· < ·) :=
    List.pairwise_map.2 (Timeline.ascending _)
  have hstarts : ((bucketed width adds).times.map (Window.bucketStart · coarse)).Pairwise (· ≤ ·) :=
    List.pairwise_map.2 (hfine.imp fun h => Window.bucketStart_mono hc h.le)
  have hdedup := (hstarts.sublist (List.dedup_sublist _)).and (List.nodup_dedup _)
  refine eq_of_ascending id hcoarse (hdedup.imp fun ⟨hle, hne⟩ => lt_of_le_of_ne hle hne)
    fun start => ?_
  simp only [List.mem_dedup, List.mem_map, mem_times_bucketed]
  constructor
  · rintro ⟨a, ha, rfl⟩
    exact ⟨_, ⟨a, ha, rfl⟩, Window.bucketStart_bucketStart hw hc hd a.1⟩
  · rintro ⟨_, ⟨a, ha, rfl⟩, rfl⟩
    exact ⟨a, ha, (Window.bucketStart_bucketStart hw hc hd a.1).symm⟩

end VolumeBuckets

namespace Window

/-- The buckets of a longer window are unions of those of a shorter one. -/
theorem coarser_buckets {shorter longer : Int} (h : shorter ≤ longer) :
    (∀ window time start, start = bucketStart time (bucketWidth window) ↔
      bucketWidth window ∣ start ∧ start ≤ time ∧ time < start + bucketWidth window) ∧
    (∀ time, bucketStart (bucketStart time (bucketWidth shorter)) (bucketWidth longer) =
      bucketStart time (bucketWidth longer)) ∧
    ∀ adds, (VolumeBuckets.bucketed (bucketWidth longer) adds).times =
      ((VolumeBuckets.bucketed (bucketWidth shorter) adds).times.map
        (bucketStart · (bucketWidth longer))).dedup := by
  have hshorter := bucketWidth_pos shorter
  have hlonger := bucketWidth_pos longer
  have hd := bucketWidth_dvd h
  refine ⟨?_, ?_, ?_⟩
  · intro window time start
    exact eq_bucketStart_iff (bucketWidth_pos window)
  · exact bucketStart_bucketStart hshorter hlonger hd
  · exact VolumeBuckets.times_bucketed hshorter hlonger hd

/-- A day in quarters of an hour and a month in four hours, on both sides of the year 1970. -/
theorem coarser_buckets_aroundZero :
    let adds : List (Int × Float) :=
      [(14400, 1.0), (-1, 2.0), (899, 4.0), (900, 8.0), (-14400, 0.5), (0, 16.0), (-14401, 1.0)]
    day ≤ month ∧ bucketWidth day = 900 ∧ bucketWidth month = 14400 ∧
      (∀ time, bucketStart (bucketStart time 900) 14400 = bucketStart time 14400) ∧
      (VolumeBuckets.bucketed 900 adds).times = [-15300, -14400, -900, 0, 900, 14400] ∧
      (VolumeBuckets.bucketed 14400 adds).times =
        ((VolumeBuckets.bucketed 900 adds).times.map (bucketStart · 14400)).dedup ∧
      (VolumeBuckets.bucketed 14400 adds).times = [-28800, -14400, 0, 14400] := by
  intro adds
  have hle : day ≤ month := by decide
  obtain ⟨-, hstarts, htimes⟩ := coarser_buckets hle
  exact ⟨hle, rfl, rfl, hstarts, by decide +kernel, htimes adds, by decide +kernel⟩

end Window

end TradeCharts
