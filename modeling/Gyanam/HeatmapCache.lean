/-
This file models the hot cache behind the heatmap. The exporter records the values
of a few metrics, and the heatmap asks for the latest value of each host. A node
reports many values in one cycle, so the cache keeps the largest value of a cycle;
a cycle ends when nothing is recorded for longer than a window. An entry is shown
while it is fresh.

Whether it is fresh is judged by the time of the last record of the cycle, not by
the time of the value it shows. So an old peak stays as long as lower values keep
coming in before the window is over.
-/

import Gyanam.Lib.Cycles
import Gyanam.Lib.DoubleOrder
import Gyanam.Lib.PerKey
import Gyanam.Models
import Mathlib.Algebra.Order.Group.Int
import Mathlib.Algebra.Order.Group.Unbundled.Basic

namespace Gyanam

open Json (Text)

/-! ### The cache -/

/-- The metrics of the heatmap and the names under which they are exported. -/
def heatmapMetrics : List (Text × Text) := [
  (Json.text "gpu_temp", Json.text "gpu_die_temp_celsius"),
  (Json.text "board_temp", Json.text "board_temp_celsius"),
  (Json.text "power", Json.text "board_power_watts")]

/-- The names that are worth caching. -/
def cachedMetricNames : List Text := heatmapMetrics.map Prod.snd

/-- Values within this window are treated as the same cycle: 90 seconds, in microseconds. -/
def sameCycleWindow : Time := 90000000

/-- A cached value older than this is stale: 600 seconds, in microseconds. -/
def freshFor : Time := 600000000

/-- A value, and when its entry was last written. -/
structure CachedValue where
  value : Double
  recordedAt : Time
  deriving DecidableEq

/-- The entries by host and metric. -/
structure HeatmapCache where
  hosts : Table Text (Table Text CachedValue) := Table.empty

/-- A call that records a value. -/
structure RecordCall where
  host : Option Text
  name : Text
  value : Double
  now : Time
  deriving DecidableEq

/-- What a value makes of an entry: the largest value of a cycle, or the first of a new one. -/
def renewEntry (entry : Option CachedValue) (value : Double) (now : Time) : CachedValue :=
  match entry with
  | none => ⟨value, now⟩
  | some entry =>
    if sameCycleWindow < now - entry.recordedAt then ⟨value, now⟩
    else ⟨if entry.value.lt value then value else entry.value, now⟩

namespace HeatmapCache

/-- Record a metric value for a host. -/
def record (cache : HeatmapCache) (call : RecordCall) : HeatmapCache :=
  match call.host with
  | none => cache
  | some host =>
    if host = [] ∨ call.name ∉ cachedMetricNames then cache
    else
      let perHost := (cache.hosts.get host).getD Table.empty
      let entry := renewEntry (perHost.get call.name) call.value call.now
      { hosts := cache.hosts.set host (perHost.set call.name entry) }

/-- The values of a heatmap metric by host, without stale ones. -/
def latest (cache : HeatmapCache) (metricKey : Text) (now : Time) : List (Text × Double) :=
  match heatmapMetrics.lookup metricKey with
  | none => []
  | some name =>
    cache.hosts.rows.filterMap fun perHost =>
      (perHost.2.get name).bind fun entry =>
        if now - entry.recordedAt ≤ freshFor then some (perHost.1, entry.value) else none

/-- The cache after some calls. -/
def recordAll (calls : List RecordCall) : HeatmapCache := calls.foldl record {}

/-- The entry of a host and a metric. -/
def entry (cache : HeatmapCache) (key : Text × Text) : Option CachedValue :=
  (cache.hosts.get key.1).bind fun perHost => perHost.get key.2

end HeatmapCache

/-! ### What was recorded -/

namespace RecordCall

/-- The host and the metric of a call. -/
def key (call : RecordCall) : Text × Text := (call.host.getD [], call.name)

/-- Does the cache take a call? It needs a host, and a metric of the heatmap. -/
def counts (call : RecordCall) : Bool :=
  decide (call.host.getD [] ≠ []) && decide (call.name ∈ cachedMetricNames)

/-- Does a gap lie between two records in a row? -/
def apart (first second : RecordCall) : Bool := decide (sameCycleWindow < second.now - first.now)

end RecordCall

/-- What was recorded for a host and a metric. -/
def recorded (calls : List RecordCall) (host name : Text) : List RecordCall :=
  calls.filter fun call => call.counts && decide (call.key = (host, name))

/-- What was recorded for them since the most recent gap. -/
def currentCycle (calls : List RecordCall) (host name : Text) : List RecordCall :=
  Cycles.current RecordCall.apart (recorded calls host name)

/-- The cache takes the calls that count, and writes the entry of their host and metric. -/
theorem record_eq (cache : HeatmapCache) (call : RecordCall) :
    cache.record call =
      if call.counts then
        { hosts := cache.hosts.set call.key.1
            (((cache.hosts.get call.key.1).getD Table.empty).set call.key.2
              (renewEntry (cache.entry call.key) call.value call.now)) }
      else cache := by
  obtain ⟨caller, metric, value, now⟩ := call
  have perHost (host : Text) : ((cache.hosts.get host).getD Table.empty).get metric =
      cache.entry (host, metric) := by
    unfold HeatmapCache.entry
    cases cache.hosts.get host <;> rfl
  cases caller with
  | none => rfl
  | some caller =>
    simp only [HeatmapCache.record, RecordCall.counts, RecordCall.key, Option.getD_some, perHost,
      Bool.and_eq_true, decide_eq_true_eq]
    by_cases ignored : caller = [] ∨ metric ∉ cachedMetricNames
    · rw [if_pos ignored, if_neg (by rwa [not_and_or, not_not])]
    · rw [if_neg ignored, if_pos (by rwa [not_or, not_not] at ignored)]

/-- A call acts on the entry of its host and metric, if the cache takes it. -/
theorem record_actsOn : ActsOn HeatmapCache.entry HeatmapCache.record RecordCall.key
    fun call entry =>
      if call.counts then some (renewEntry entry call.value call.now) else entry := by
  refine ActsOn.intro (fun cache call => ?_) fun cache call other different => ?_
  · rw [record_eq]
    split
    · rw [HeatmapCache.entry, Table.get_set, if_pos rfl, Option.bind_some, Table.get_set,
        if_pos rfl]
    · rfl
  · rw [record_eq]
    split
    · simp only [HeatmapCache.entry, Table.get_set]
      by_cases same : other.1 = call.key.1
      · have apart : other.2 ≠ call.key.2 := fun alike => different (Prod.ext same alike)
        rw [if_pos same, Option.bind_some, Table.get_set, if_neg apart, same]
        cases cache.hosts.get call.key.1 <;> rfl
      · rw [if_neg same]
    · rfl

/-- The entry of a host and a metric is made by what was recorded for them. -/
theorem entry_recordAll (calls : List RecordCall) (host name : Text) :
    (HeatmapCache.recordAll calls).entry (host, name) =
      (recorded calls host name).foldl
        (fun entry call => some (renewEntry entry call.value call.now)) none := by
  rw [HeatmapCache.recordAll, record_actsOn.view_foldl, recorded, ← List.filter_filter]
  exact List.foldl_filter.symm

/-! ### What an entry is -/

/-- What an entry is after some records: it was written by the last of them, its value is one of the
current cycle, and no value of that cycle is larger. -/
structure CachedValue.Holds (entry : CachedValue) (records : List RecordCall) : Prop where
  last : ∃ call, records.getLast? = some call ∧ call.now = entry.recordedAt
  peak : ∃ call ∈ Cycles.current RecordCall.apart records, call.value = entry.value
  top : ∀ call ∈ Cycles.current RecordCall.apart records, entry.value.lt call.value = false

/-- The first value of a cycle. -/
theorem holds_alone {records : List RecordCall} {call : RecordCall}
    (alone : Cycles.current RecordCall.apart (records ++ [call]) = [call]) :
    CachedValue.Holds ⟨call.value, call.now⟩ (records ++ [call]) := by
  refine ⟨⟨call, List.getLast?_concat, rfl⟩, ⟨call, ?_, rfl⟩, ?_⟩
  · rw [alone]
    exact List.mem_singleton_self call
  · intro other member
    rw [alone, List.mem_singleton] at member
    rw [member]
    exact Double.lt_irrefl call.value

/-- One more record of the same cycle. -/
theorem CachedValue.Holds.join {entry : CachedValue} {records : List RecordCall}
    (holds : entry.Holds records) {call : RecordCall}
    (joins : Cycles.current RecordCall.apart (records ++ [call]) =
      Cycles.current RecordCall.apart records ++ [call]) :
    CachedValue.Holds ⟨if entry.value.lt call.value then call.value else entry.value, call.now⟩
      (records ++ [call]) := by
  refine ⟨⟨call, List.getLast?_concat, rfl⟩, ?_, ?_⟩
  · rw [joins]
    split
    · exact ⟨call, List.mem_append_right _ (List.mem_singleton_self call), rfl⟩
    · obtain ⟨peak, member, same⟩ := holds.peak
      exact ⟨peak, List.mem_append_left _ member, same⟩
  · intro other member
    rw [joins, List.mem_append, List.mem_singleton] at member
    by_cases larger : entry.value.lt call.value = true
    · rw [if_pos larger]
      rcases member with earlier | rfl
      · rw [← Bool.not_eq_true]
        intro above
        exact absurd (Double.lt_trans larger above) (by simp [holds.top other earlier])
      · exact Double.lt_irrefl other.value
    · rw [if_neg larger]
      rcases member with earlier | rfl
      · exact holds.top other earlier
      · exact Bool.eq_false_of_not_eq_true larger

/-- The entry that some records make. There is none before the first. -/
theorem holds_of_records (records : List RecordCall) :
    match records.foldl (fun entry call => some (renewEntry entry call.value call.now)) none with
    | none => records = []
    | some entry => entry.Holds records := by
  induction records using List.reverseRecOn with
  | nil => rfl
  | append_singleton records call inductionHypothesis =>
    rw [List.foldl_append, List.foldl_cons, List.foldl_nil]
    generalize records.foldl _ none = before at inductionHypothesis
    cases before with
    | none =>
      subst inductionHypothesis
      exact holds_alone rfl
    | some entry =>
      obtain ⟨last, found, at_⟩ := inductionHypothesis.last
      have joined : Cycles.current RecordCall.apart (records ++ [call]) = _ :=
        Cycles.current_concat records call
      rw [Cycles.extend, Cycles.getLast?_current, found, Option.any_some, RecordCall.apart,
        at_] at joined
      by_cases gap : sameCycleWindow < call.now - entry.recordedAt
      · rw [if_pos (decide_eq_true gap)] at joined
        simp only [renewEntry, if_pos gap]
        exact holds_alone joined
      · rw [if_neg (by simpa using gap)] at joined
        simp only [renewEntry, if_neg gap]
        exact inductionHypothesis.join joined

/-! ### What is shown -/

theorem HeatmapCache.mem_latest {cache : HeatmapCache} {metricKey name host : Text} {now : Time}
    {shown : Double} (known : heatmapMetrics.lookup metricKey = some name) :
    (host, shown) ∈ cache.latest metricKey now ↔
      ∃ entry, cache.entry (host, name) = some entry ∧ now - entry.recordedAt ≤ freshFor ∧
        entry.value = shown := by
  simp only [latest, known, List.mem_filterMap, Option.bind_eq_some_iff, HeatmapCache.entry,
    Option.ite_none_right_eq_some, Option.some.injEq, Prod.mk.injEq]
  constructor
  · rintro ⟨perHost, listed, entry, found, fresh, rfl, same⟩
    exact ⟨entry, ⟨perHost.2, Table.get_eq_some_iff.mpr listed, found⟩, fresh, same⟩
  · rintro ⟨entry, ⟨perHost, filed, found⟩, fresh, same⟩
    exact ⟨(host, perHost), Table.get_eq_some_iff.mp filed, entry, found, fresh, rfl, same⟩

/-- What is shown of a host and a metric is current: it was recorded for them no longer ago than an
entry is fresh, and it is at least every value since the most recent gap. -/
def IsCurrent (calls : List RecordCall) (host name : Text) (now : Time) (shown : Double) : Prop :=
  (∃ call ∈ recorded calls host name, call.value = shown ∧ now - freshFor ≤ call.now) ∧
    ∀ call ∈ currentCycle calls host name, call.value.le shown = true

instance (calls : List RecordCall) (host name : Text) (now : Time) (shown : Double) :
    Decidable (IsCurrent calls host name now shown) :=
  inferInstanceAs (Decidable (_ ∧ _))

/-- The last of some records is the latest. -/
theorem now_le_last {records : List RecordCall}
    (ordered : records.Pairwise fun first second => first.now ≤ second.now) {last : RecordCall}
    (found : records.getLast? = some last) : ∀ call ∈ records, call.now ≤ last.now := by
  obtain ⟨front, rfl⟩ := List.getLast?_eq_some_iff.mp found
  rw [List.pairwise_append] at ordered
  intro call member
  rcases List.mem_append.mp member with earlier | own
  · exact ordered.2.2 call earlier last (List.mem_singleton_self last)
  · rw [List.mem_singleton.mp own]

/-- A value of the current cycle was recorded at least as late as anything before the cycle. -/
theorem exists_recent {records : List RecordCall}
    (ordered : records.Pairwise fun first second => first.now ≤ second.now) {call peak : RecordCall}
    (member : call ∈ records) (current : peak ∈ Cycles.current RecordCall.apart records)
    (same : call.value = peak.value) :
    ∃ recent ∈ Cycles.current RecordCall.apart records,
      call.now ≤ recent.now ∧ recent.value = peak.value := by
  obtain ⟨before, split⟩ : Cycles.current RecordCall.apart records <:+ records :=
    Cycles.current_suffix records
  rw [← split, List.pairwise_append] at ordered
  rw [← split] at member
  rcases List.mem_append.mp member with earlier | own
  · exact ⟨peak, current, ordered.2.2 call earlier peak current, rfl⟩
  · exact ⟨call, own, le_refl _, same⟩

/-- Values are shown as current ones, for a host and a metric of which something was recorded that
is fresh, exactly when a largest value since the most recent gap was recorded no longer ago than an
entry is fresh. -/
theorem heatmap_current_iff (calls : List RecordCall)
    (ordered : calls.Pairwise fun first second => first.now ≤ second.now)
    (metricKey name host : Text) (known : heatmapMetrics.lookup metricKey = some name)
    (now : Time) :
    (∀ shown, (host, shown) ∈ (HeatmapCache.recordAll calls).latest metricKey now →
        IsCurrent calls host name now shown) ↔
      ((∃ call ∈ recorded calls host name, now - freshFor ≤ call.now) →
        ∃ recent ∈ currentCycle calls host name, now - freshFor ≤ recent.now ∧
          ∀ other ∈ currentCycle calls host name, other.value.le recent.value = true) := by
  have kept : (recorded calls host name).Pairwise fun first second => first.now ≤ second.now :=
    ordered.sublist List.filter_sublist
  have made := holds_of_records (recorded calls host name)
  rw [← entry_recordAll] at made
  simp only [HeatmapCache.mem_latest known]
  cases found : (HeatmapCache.recordAll calls).entry (host, name) with
  | none =>
    rw [found] at made
    simp [made]
  | some entry =>
    rw [found] at made
    obtain ⟨last, ends, time⟩ := made.last
    obtain ⟨peak, current, value⟩ := made.peak
    constructor
    · rintro shows ⟨call, member, fresh⟩
      have late := now_le_last kept ends call member
      have lasting : now - entry.recordedAt ≤ freshFor := by
        rw [sub_le_comm, ← time]
        exact fresh.trans late
      obtain ⟨⟨shown, listed, same, recently⟩, top⟩ :=
        shows entry.value ⟨entry, rfl, lasting, rfl⟩
      obtain ⟨recent, inside, later, alike⟩ :=
        exists_recent kept listed current (same.trans value.symm)
      refine ⟨recent, inside, recently.trans later, fun other member => ?_⟩
      rw [alike, value]
      exact top other member
    · rintro meets shown ⟨_, same, fresh, rfl⟩
      obtain rfl := Option.some.inj same
      obtain ⟨recent, inside, recently, largest⟩ :=
        meets ⟨last, List.mem_of_getLast? ends, by rwa [time, sub_le_comm]⟩
      -- The value that is shown is at most the largest one, and not less than it.
      have same : entry.value = recent.value := by
        have atMost := largest peak current
        rw [value, Double.le, made.top recent inside, Bool.false_or, Bool.and_eq_true,
          decide_eq_true_eq, decide_eq_true_eq] at atMost
        exact atMost.2
      refine ⟨⟨recent, ?_, same.symm, recently⟩, fun call member => ?_⟩
      · exact (Cycles.current_suffix _).subset inside
      · rw [same]
        exact largest call member

/-- A temperature of a GPU of one node, in seconds. -/
def gpuTemperature (value : Rat) (seconds : Int) : RecordCall where
  host := some (Json.text "node-1")
  name := Json.text "gpu_die_temp_celsius"
  value := .finite value
  now := seconds * 1000000

/-- Three GPUs of a node, one poll before them. -/
def twoPolls : List RecordCall :=
  [gpuTemperature 95 0, gpuTemperature 70 300, gpuTemperature 85 301, gpuTemperature 60 302]

theorem twoPolls_current :
    (HeatmapCache.recordAll twoPolls).latest (Json.text "gpu_temp") 303000000 =
        [(Json.text "node-1", .finite 85)] ∧
      ∀ shown, (Json.text "node-1", shown) ∈
          (HeatmapCache.recordAll twoPolls).latest (Json.text "gpu_temp") 303000000 →
        IsCurrent twoPolls (Json.text "node-1") (Json.text "gpu_die_temp_celsius")
          303000000 shown :=
  ⟨by decide, (heatmap_current_iff twoPolls (by decide) (Json.text "gpu_temp")
    (Json.text "gpu_die_temp_celsius") (Json.text "node-1") (by decide) 303000000).mpr (by decide)⟩

/-- A peak, and lower values once a minute for eleven minutes. -/
def carriedPeak : List RecordCall :=
  gpuTemperature 90 0 :: (List.range 11).map fun index => gpuTemperature 50 (60 * (index + 1))

/-- The peak is shown eleven minutes later. -/
theorem carriedPeak_not_current :
    ¬ ∀ (calls : List RecordCall), (calls.Pairwise fun first second => first.now ≤ second.now) →
      ∀ (metricKey name host : Text), heatmapMetrics.lookup metricKey = some name →
        ∀ now shown, (host, shown) ∈ (HeatmapCache.recordAll calls).latest metricKey now →
          IsCurrent calls host name now shown := by
  intro claimed
  have current := claimed carriedPeak (by decide) (Json.text "gpu_temp")
    (Json.text "gpu_die_temp_celsius") (Json.text "node-1") (by decide) 660000000 (.finite 90)
    (by decide)
  exact absurd current (by decide)

end Gyanam
