import SensorHost.Protocol.Walker

/-!
# Ticks across wraps

The sensor counts ticks in 32 bits. `_extend_ticks` adds an epoch at every wrap, and the values it
produces differ as the true counts do, however the tags are split into calls
(`extendCalls_differences`): the epoch stays a fixed distance behind the true count (`Tracks`).

`TickStep` is the assumption on two counts that follow each other. The invariant `Tracks` has the
true count beside the state of the reconstructor; `Tracks.extendTick` is its step, and the first
call sets the base (`extendTick_first`). Differences do not see the base.
-/

namespace SensorHost.Protocol
open SensorHost.Lib

/-- The wire value of a count. -/
def wireTicks (count : Nat) : Nat := count % 2 ^ 32

/-- A count does not go back, and it goes on by less than half of the range of the wire. -/
def TickStep (count next : Nat) : Prop := count ≤ next ∧ next - count < 2 ^ 31

namespace IisTimestampReconstructor

/-- Successive calls of `_extend_ticks`. -/
def extendCalls (r : IisTimestampReconstructor) :
    List (List Nat) → IisTimestampReconstructor × List (List Nat)
  | [] => (r, [])
  | ticks :: calls =>
    let now := r.extendTicks ticks
    let later := extendCalls now.1 calls
    (later.1, now.2 :: later.2)

/-- Ticks are extended the same in one call or several. -/
lemma extendCalls_flatten (r : IisTimestampReconstructor) (calls : List (List Nat)) :
    (r.extendCalls calls).2.flatten = (r.extendTicks calls.flatten).2 := by
  induction calls generalizing r with
  | nil => rfl
  | cons ticks calls ih =>
    rw [extendCalls, List.flatten_cons, List.flatten_cons, extendTicks_append]
    exact congrArg ((r.extendTicks ticks).2 ++ ·) (ih _)

/-- Each call returns as many as it was given. -/
lemma extendCalls_lengths (r : IisTimestampReconstructor) (calls : List (List Nat)) :
    (r.extendCalls calls).2.map List.length = calls.map List.length := by
  induction calls generalizing r with
  | nil => rfl
  | cons ticks calls ih =>
    rw [extendCalls, List.map_cons, List.map_cons, length_extendTicks, ih]

/-- The reconstructor is at this count, and its epoch is `base` behind it. -/
structure Tracks (r : IisTimestampReconstructor) (base count : Nat) : Prop where
  last : r.lastTicks = some (wireTicks count)
  epoch : r.tickEpoch + base = count / 2 ^ 32 * 2 ^ 32

/-- The first count sets the distance. -/
lemma extendTick_first (count : Nat) :
    Tracks (({} : IisTimestampReconstructor).extendTick (wireTicks count)).1
        (count / 2 ^ 32 * 2 ^ 32) count ∧
      (({} : IisTimestampReconstructor).extendTick (wireTicks count)).2 +
        count / 2 ^ 32 * 2 ^ 32 = count := by
  refine ⟨⟨rfl, Nat.zero_add _⟩, ?_⟩
  have hvalue : (({} : IisTimestampReconstructor).extendTick (wireTicks count)).2 =
      0 + wireTicks count := rfl
  rw [hvalue, Nat.zero_add, wireTicks, Nat.mod_add_div']

/-- A step keeps the distance: there is a wrap exactly when the wire value falls by more than half of
its range. -/
lemma Tracks.extendTick {r : IisTimestampReconstructor} {base count next : Nat}
    (h : Tracks r base count) (hstep : TickStep count next) :
    Tracks (r.extendTick (wireTicks next)).1 base next ∧
      (r.extendTick (wireTicks next)).2 + base = next := by
  obtain ⟨hle, hlt⟩ := hstep
  have hepoch := h.epoch
  have hnext : r.extendTick (wireTicks next) =
      ({ r with
          lastTicks := some (wireTicks next)
          tickEpoch :=
            if wireTicks next < wireTicks count ∧ wireTicks count - wireTicks next > 0x80000000 then
              r.tickEpoch + 2 ^ 32
            else r.tickEpoch },
        (if wireTicks next < wireTicks count ∧ wireTicks count - wireTicks next > 0x80000000 then
          r.tickEpoch + 2 ^ 32
        else r.tickEpoch) + wireTicks next) := by
    unfold IisTimestampReconstructor.extendTick
    rw [h.last]
  have hbase : (if wireTicks next < wireTicks count ∧
      wireTicks count - wireTicks next > 0x80000000 then r.tickEpoch + 2 ^ 32
      else r.tickEpoch) + base = next / 2 ^ 32 * 2 ^ 32 := by
    unfold wireTicks
    split
    · -- the count passed a multiple of the range
      have hwrap : next / 2 ^ 32 = count / 2 ^ 32 + 1 := by omega
      rw [hwrap, Nat.add_right_comm, hepoch, Nat.succ_mul]
    · have hsame : next / 2 ^ 32 = count / 2 ^ 32 := by omega
      rw [hsame, hepoch]
  rw [hnext]
  refine ⟨⟨rfl, hbase⟩, ?_⟩
  dsimp only
  rw [Nat.add_right_comm, hbase, wireTicks, Nat.div_add_mod']

/-- Every value of a call is the true count less the distance. -/
lemma Tracks.extendTicks {r : IisTimestampReconstructor} {base count : Nat}
    (h : Tracks r base count) {counts : List Nat}
    (hsteps : (count :: counts).IsChain TickStep) :
    (r.extendTicks (counts.map wireTicks)).2.map (· + base) = counts := by
  induction counts generalizing r count with
  | nil => rfl
  | cons next counts ih =>
    obtain ⟨hstep, hrest⟩ := List.isChain_cons_cons.mp hsteps
    obtain ⟨htracks, hvalue⟩ := h.extendTick hstep
    rw [List.map_cons, IisTimestampReconstructor.extendTicks, List.map_cons, hvalue,
      ih htracks hrest]

/-- The ticks come out as the true counts, less the wraps before the first. -/
lemma extendTicks_base {counts : List Nat} (hsteps : counts.IsChain TickStep) :
    (({} : IisTimestampReconstructor).extendTicks (counts.map wireTicks)).2.map
      (· + counts.headD 0 / 2 ^ 32 * 2 ^ 32) = counts := by
  cases counts with
  | nil => rfl
  | cons count counts =>
    obtain ⟨htracks, hvalue⟩ := extendTick_first count
    rw [List.map_cons, IisTimestampReconstructor.extendTicks, List.map_cons, List.headD_cons, hvalue,
      htracks.extendTicks hsteps]

/-- No count is above the last. -/
lemma le_getLastD_of_steps {counts : List Nat} (hsteps : counts.IsChain TickStep) {count : Nat}
    (h : count ∈ counts) : count ≤ counts.getLastD 0 := by
  obtain rfl | ⟨front, last, rfl⟩ := counts.eq_nil_or_concat'
  · cases h
  · have hsorted : (front ++ [last]).Pairwise (· ≤ ·) :=
      (hsteps.imp fun _ _ hstep => hstep.1).pairwise
    rw [List.getLastD_concat]
    rcases List.mem_append.mp h with h | h
    · exact (List.pairwise_append.mp hsorted).2.2 count h last (List.mem_singleton_self last)
    · exact (List.mem_singleton.mp h).le

/-- The values that `_extend_ticks` produces for the wire values of growing counts, in any number of
calls, differ as the counts do. They fit the signed 64-bit array as long as the counts span less than
`2 ^ 63 - 2 ^ 32`. -/
theorem extendCalls_differences (counts : List (List Nat))
    (hsteps : counts.flatten.IsChain TickStep) :
    let values :=
      (({} : IisTimestampReconstructor).extendCalls (counts.map (List.map wireTicks))).2
    values.map List.length = counts.map List.length ∧
      (∀ i j, i < counts.flatten.length → j < counts.flatten.length →
        (values.flatten.getD j 0 : Int) - values.flatten.getD i 0 =
          counts.flatten.getD j 0 - counts.flatten.getD i 0) ∧
      (counts.flatten.getLastD 0 - counts.flatten.headD 0 < 2 ^ 63 - 2 ^ 32 →
        ∀ value ∈ values.flatten, value < 2 ^ 63) := by
  intro values
  have hflatten : values.flatten =
      (({} : IisTimestampReconstructor).extendTicks (counts.flatten.map wireTicks)).2 := by
    rw [extendCalls_flatten, List.map_flatten]
  have hbase := extendTicks_base hsteps
  rw [← hflatten] at hbase
  have hfirst : counts.flatten.headD 0 < counts.flatten.headD 0 / 2 ^ 32 * 2 ^ 32 + 2 ^ 32 :=
    Nat.lt_div_mul_add (by decide)
  have hlast : ∀ count ∈ counts.flatten, count ≤ counts.flatten.getLastD 0 :=
    fun count => le_getLastD_of_steps hsteps
  generalize counts.flatten.headD 0 = first at hbase hfirst ⊢
  generalize first / 2 ^ 32 * 2 ^ 32 = base at hbase hfirst
  -- the values are the counts without the wraps before the first of them
  have hget : ∀ i, i < counts.flatten.length →
      counts.flatten.getD i 0 = values.flatten.getD i 0 + base := by
    intro i hi
    have hi' : i < values.flatten.length := by
      rwa [← hbase, List.length_map] at hi
    rw [← hbase, List.getD_eq_getElem?_getD, List.getD_eq_getElem?_getD, List.getElem?_map,
      List.getElem?_eq_getElem hi', Option.map_some, Option.getD_some, Option.getD_some]
  refine ⟨?_, fun i j hi hj => ?_, fun hspan value hvalue => ?_⟩
  · rw [extendCalls_lengths, List.map_map]
    exact List.map_congr_left fun ticks _ => List.length_map _
  · rw [hget i hi, hget j hj]
    push_cast
    ring
  · have hcount : value + base ∈ counts.flatten := hbase ▸ List.mem_map_of_mem hvalue
    have hle := hlast (value + base) hcount
    omega

/-- A wrap within one call and one between two calls. -/
theorem extendCalls_differences_wraps :
    let counts := [[2 ^ 32 - 16, 2 ^ 32 + 16], [2 ^ 32 + 2 ^ 31, 2 ^ 33 - 1], [2 ^ 33]]
    let values :=
      (({} : IisTimestampReconstructor).extendCalls (counts.map (List.map wireTicks))).2
    (values.flatten.getD 4 0 : Int) - values.flatten.getD 0 0 =
      counts.flatten.getD 4 0 - counts.flatten.getD 0 0 := by
  have hsteps : [2 ^ 32 - 16, 2 ^ 32 + 16, 2 ^ 32 + 2 ^ 31, 2 ^ 33 - 1, 2 ^ 33].IsChain
      TickStep := by
    unfold TickStep
    decide
  exact (extendCalls_differences
    [[2 ^ 32 - 16, 2 ^ 32 + 16], [2 ^ 32 + 2 ^ 31, 2 ^ 33 - 1], [2 ^ 33]] hsteps).2.1 0 4
    (by decide) (by decide)

end IisTimestampReconstructor

end SensorHost.Protocol
