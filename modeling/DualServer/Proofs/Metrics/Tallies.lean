import DualServer.Metrics.Series

/-! What the series show after some counts: each count adds one to its own series and leaves all
others alone, so the series of one name sum up to the counts under that name. -/
namespace DualServer.Metrics

namespace Tally

/-- The sum over the series of one name. -/
def totalOf (t : Tally) (name : String) : Nat := Tally.total (t.filter (·.1.name == name))

variable (t : Tally) (key : Key)

theorem get_cons (entry : Key × Nat) (other : Key) :
    get (entry :: t) other = if entry.1 = other then entry.2 else t.get other := by
  by_cases h : entry.1 = other <;> simp [get, h]

theorem totalOf_cons (entry : Key × Nat) (name : String) :
    totalOf (entry :: t) name = (if entry.1.name = name then entry.2 else 0) + t.totalOf name := by
  by_cases h : entry.1.name = name <;> simp [totalOf, total, h]

theorem get_bump (other : Key) :
    (t.bump key).get other = t.get other + if key = other then 1 else 0 := by
  induction t with
  | nil =>
    have hnone : get [] other = 0 := rfl
    rw [bump, get_cons, hnone, Nat.zero_add]
  | cons entry rest ih =>
    unfold bump
    split
    next hkey =>
      rw [get_cons, get_cons, hkey]
      split <;> rfl
    next hkey =>
      rw [get_cons, get_cons, ih]
      split
      next hother =>
        subst hother
        simp [Ne.symm hkey]
      next => rfl

theorem totalOf_bump (name : String) :
    (t.bump key).totalOf name = t.totalOf name + if key.name = name then 1 else 0 := by
  induction t with
  | nil =>
    have hnone : totalOf [] name = 0 := rfl
    rw [bump, totalOf_cons, hnone, Nat.add_comm]
  | cons entry rest ih =>
    unfold bump
    split
    next hkey =>
      rw [totalOf_cons, totalOf_cons, hkey]
      dsimp only
      split <;> omega
    next =>
      rw [totalOf_cons, totalOf_cons, ih]
      dsimp only
      omega

theorem mem_keys_bump {other : Key} :
    other ∈ (t.bump key).map (·.1) ↔ other ∈ t.map (·.1) ∨ other = key := by
  induction t with
  | nil => simp [bump]
  | cons entry rest ih =>
    unfold bump
    split
    next hkey => simp [← hkey, or_comm, eq_comm]
    next => rw [List.map_cons, List.map_cons, List.mem_cons, List.mem_cons, ih, or_assoc]

def bumpAll (keys : List Key) : Tally := keys.foldl bump t

variable (keys : List Key)

theorem get_bumpAll : (t.bumpAll keys).get key = t.get key + keys.count key := by
  induction keys generalizing t with
  | nil => rfl
  | cons other keys ih =>
    rw [bumpAll, List.foldl_cons, ← bumpAll, ih, get_bump, List.count_cons]
    simp only [beq_iff_eq]
    omega

theorem totalOf_bumpAll (name : String) :
    (t.bumpAll keys).totalOf name = t.totalOf name + keys.countP (·.name = name) := by
  induction keys generalizing t with
  | nil => rfl
  | cons key keys ih =>
    rw [bumpAll, List.foldl_cons, ← bumpAll, ih, totalOf_bump, List.countP_cons]
    simp only [decide_eq_true_eq]
    omega

theorem mem_keys_bumpAll :
    key ∈ (t.bumpAll keys).map (·.1) ↔ key ∈ t.map (·.1) ∨ key ∈ keys := by
  induction keys generalizing t with
  | nil => simp [bumpAll]
  | cons other keys ih =>
    rw [bumpAll, List.foldl_cons, ← bumpAll, ih, mem_keys_bump, List.mem_cons, or_assoc]

end Tally

/-- The keys that are counted by some samples, each as often as it is. -/
def counted (samples : List Sample) : List Key :=
  samples.filterMap fun
    | .count key => some key
    | .duration _ => none

theorem Series.counters_recordAll (s : Series) (samples : List Sample) :
    (s.recordAll samples).counters = s.counters.bumpAll (counted samples) := by
  induction samples generalizing s with
  | nil => rfl
  | cons sample samples ih =>
    rw [recordAll, List.foldl_cons, ← recordAll, ih]
    cases sample <;> rfl

end DualServer.Metrics
