/-
Module: AffinityPool.Proofs.Pool.Filling
Purpose: Where the calls of a pool go while none of them is given back: the channels are filled one
  after the other up to the ceiling, and then they take turns.
Main exports:
  Limits.home, Limits.share, Limits.share_succ, Pool.Filled, Pool.Filled.home_of_reused,
  Pool.Filled.home_of_made, Pool.Filled.acquire
-/
import AffinityPool.Proofs.Pool.Growth

namespace AffinityPool

namespace Limits

/-- The channel of a call, from its place among calls of which none has been given
back.  Places count from zero. -/
def home (limits : Limits) (place : Nat) : Nat :=
  if place < limits.maxSize * limits.ceiling then place / limits.ceiling
  else place % limits.maxSize

/-- How many of so many calls a channel carries: what is left for it up to the
ceiling, and an even share once all channels have reached the ceiling. -/
def share (limits : Limits) (calls channel : Nat) : Nat :=
  if calls < limits.maxSize * limits.ceiling then
    min limits.ceiling (calls - channel * limits.ceiling)
  else calls / limits.maxSize + if channel < calls % limits.maxSize then 1 else 0

section

variable (limits : Limits) {calls channel : Nat}

/-- The two ways to count a share agree where the last channel reaches the
ceiling. -/
theorem share_of_le (few : calls ≤ limits.maxSize * limits.ceiling)
    (pooled : channel < limits.maxSize) :
    limits.share calls channel = min limits.ceiling (calls - channel * limits.ceiling) := by
  unfold share
  rcases Nat.lt_or_eq_of_le few with room | rfl
  · exact if_pos room
  · have later := Nat.mul_le_mul_right limits.ceiling (Nat.succ_le_of_lt pooled)
    rw [Nat.succ_mul] at later
    rw [if_neg (Nat.lt_irrefl _), Nat.mul_mod_right, if_neg (Nat.not_lt_zero _),
      Nat.mul_div_cancel_left _ limits.maxSize_pos]
    omega

theorem share_of_ge (many : limits.maxSize * limits.ceiling ≤ calls) :
    limits.share calls channel =
      calls / limits.maxSize + if channel < calls % limits.maxSize then 1 else 0 :=
  if_neg (Nat.not_lt.mpr many)

theorem home_of_ge (many : limits.maxSize * limits.ceiling ≤ calls) :
    limits.home calls = calls % limits.maxSize :=
  if_neg (Nat.not_lt.mpr many)

/-- While there is room, one more call goes to the channel that is being filled. -/
private theorem share_succ_of_room (room : calls < limits.maxSize * limits.ceiling)
    (pooled : channel < limits.maxSize) :
    limits.share (calls + 1) channel =
      limits.share calls channel + if limits.home calls = channel then 1 else 0 := by
  have filling : limits.home calls = calls / limits.ceiling := if_pos room
  rw [limits.share_of_le room pooled, limits.share_of_le (Nat.le_of_lt room) pooled, filling]
  have begun := Nat.div_mul_le_self calls limits.ceiling
  have unfilled := Nat.lt_div_mul_add (a := calls) limits.ceiling_pos
  rcases Nat.lt_trichotomy (calls / limits.ceiling) channel with later | here | earlier
  · have beyond := Nat.mul_le_mul_right limits.ceiling (Nat.succ_le_of_lt later)
    rw [Nat.succ_mul] at beyond
    rw [if_neg (Nat.ne_of_lt later)]
    omega
  · rw [here] at begun unfilled
    rw [if_pos here]
    omega
  · have full := Nat.mul_le_mul_right limits.ceiling (Nat.succ_le_of_lt earlier)
    rw [Nat.succ_mul] at full
    rw [if_neg (Nat.ne_of_gt earlier)]
    omega

/-- Once all channels are at the ceiling, one more call goes to the next one in
turn. -/
private theorem share_succ_of_full (many : limits.maxSize * limits.ceiling ≤ calls)
    (pooled : channel < limits.maxSize) :
    limits.share (calls + 1) channel =
      limits.share calls channel + if limits.home calls = channel then 1 else 0 := by
  rw [limits.share_of_ge (many.trans (Nat.le_succ calls)), limits.share_of_ge many,
    limits.home_of_ge many]
  have positive := limits.maxSize_pos
  have parts := Nat.mod_add_div calls limits.maxSize
  have turn := Nat.mod_lt calls positive
  rcases Nat.lt_or_eq_of_le (Nat.succ_le_of_lt turn) with goesOn | lastTurn
  · obtain ⟨round, place⟩ := (Nat.div_mod_unique (a := calls + 1)
      (d := calls / limits.maxSize) (c := calls % limits.maxSize + 1) positive).mpr
      ⟨by omega, goesOn⟩
    rw [round, place]
    split <;> split <;> split <;> omega
  · obtain ⟨round, place⟩ := (Nat.div_mod_unique (a := calls + 1)
      (d := calls / limits.maxSize + 1) (c := 0) positive).mpr
      ⟨by rw [Nat.mul_succ]; omega, positive⟩
    rw [round, place]
    split <;> split <;> split <;> omega

/-- One more call is one more for the channel that is its home. -/
theorem share_succ (pooled : channel < limits.maxSize) :
    limits.share (calls + 1) channel =
      limits.share calls channel + if limits.home calls = channel then 1 else 0 := by
  rcases Nat.lt_or_ge calls (limits.maxSize * limits.ceiling) with room | many
  · exact limits.share_succ_of_room room pooled
  · exact limits.share_succ_of_full many pooled

end

end Limits

namespace Pool

/-! ### Pools that are filled -/

/-- A pool that has taken so many calls and none of them back. -/
structure Filled (limits : Limits) (calls : Nat) (pool : Pool) : Prop where
  limited : pool.limits = limits
  numbered : pool.Numbered
  size : pool.size = min limits.maxSize (calls ⌈/⌉ limits.ceiling)
  /-- Channels that have not been made carry no calls. -/
  shares : ∀ channel < limits.maxSize,
    (pool.slotAt channel).activeCalls = limits.share calls channel

theorem filled_empty (limits : Limits) : Filled limits 0 (empty limits) where
  limited := rfl
  numbered := numbered_empty limits
  size := by simp
  shares := by
    intro channel pooled
    rw [limits.share_of_le (Nat.zero_le _) pooled, Nat.zero_sub, Nat.min_zero]
    rfl

namespace Filled

variable {limits : Limits} {calls position : Nat} {pool : Pool}

/-- If a channel is to be used again, it is the home of the next call. -/
theorem home_of_reused (filled : Filled limits calls pool) (least : pool.LeastLoaded position)
    (usable : (pool.slotAt position).activeCalls < limits.ceiling ∨ limits.maxSize ≤ pool.size) :
    position = limits.home calls := by
  obtain ⟨bounded, needed, enough⟩ := limits.needed_iff.mp filled.size
  have pooled := Nat.lt_of_lt_of_le least.pooled bounded
  rcases Nat.lt_or_ge calls (limits.maxSize * limits.ceiling) with room | many
  · -- Some channel is below the ceiling, so the least loaded one is.
    have free : limits.share calls position < limits.ceiling := by
      rw [← filled.shares position pooled]
      rcases usable with below | full
      · exact below
      · have last : limits.maxSize - 1 < limits.maxSize :=
          Nat.sub_lt limits.maxSize_pos Nat.zero_lt_one
        have loaded := least.least _ (Nat.lt_of_lt_of_le last full)
        have unfilled := limits.share_of_le (Nat.le_of_lt room) last
        rw [← filled.shares _ last, Nat.sub_one_mul] at unfilled
        have positive := limits.ceiling_pos
        omega
    rw [limits.share_of_le (Nat.le_of_lt room) pooled] at free
    have begun := needed position least.pooled
    have filling : limits.home calls = calls / limits.ceiling := if_pos room
    rw [filling]
    refine (Nat.div_eq_of_lt_le (Nat.le_of_lt begun) ?_).symm
    rw [Nat.succ_mul]
    omega
  · -- All channels are there, and the first of those that are one call behind is next.
    have full : limits.maxSize ≤ pool.size := by
      apply Nat.le_of_not_lt
      intro more
      have short := Nat.mul_lt_mul_of_pos_right more limits.ceiling_pos
      have carried := enough more
      omega
    have turn := Nat.mod_lt calls limits.maxSize_pos
    have loaded := least.least _ (Nat.lt_of_lt_of_le turn full)
    rw [filled.shares position pooled, filled.shares _ turn, limits.share_of_ge many,
      limits.share_of_ge many, if_neg (Nat.lt_irrefl _)] at loaded
    rw [limits.home_of_ge many]
    split at loaded <;> omega

/-- A channel is made when all there are have just reached the ceiling. -/
theorem calls_of_made (filled : Filled limits calls pool) (room : pool.size < limits.maxSize)
    (saturated : ∀ position < pool.size, limits.ceiling ≤ (pool.slotAt position).activeCalls) :
    calls = pool.size * limits.ceiling := by
  obtain ⟨bounded, needed, enough⟩ := limits.needed_iff.mp filled.size
  have short := Nat.mul_lt_mul_of_pos_right room limits.ceiling_pos
  apply Nat.le_antisymm (enough room)
  rcases Nat.eq_zero_or_pos pool.size with empty | nonempty
  · rw [empty, Nat.zero_mul]
    exact Nat.zero_le _
  · have last : pool.size - 1 < pool.size := Nat.sub_lt nonempty Nat.zero_lt_one
    have pooled := Nat.lt_trans last room
    have few := (enough room).trans (Nat.le_of_lt short)
    have reached := saturated _ last
    rw [filled.shares _ pooled, limits.share_of_le few pooled, Nat.sub_one_mul] at reached
    have positive := limits.ceiling_pos
    omega

/-- If a channel is to be made, it is the home of the next call. -/
theorem home_of_made (filled : Filled limits calls pool) (room : pool.size < limits.maxSize)
    (saturated : ∀ position < pool.size, limits.ceiling ≤ (pool.slotAt position).activeCalls) :
    pool.size = limits.home calls := by
  have short := Nat.mul_lt_mul_of_pos_right room limits.ceiling_pos
  rw [filled.calls_of_made room saturated, Limits.home, if_pos short,
    Nat.mul_div_cancel _ limits.ceiling_pos]

/-- Counting a call on its home, once that is there. -/
private theorem count (filled : Filled limits calls pool) {after : Pool}
    (limited : after.limits = limits) (numbered : after.Numbered)
    (size : after.size = min limits.maxSize ((calls + 1) ⌈/⌉ limits.ceiling))
    (counted : ∀ channel, (after.slotAt channel).activeCalls =
      (pool.slotAt channel).activeCalls + if limits.home calls = channel then 1 else 0) :
    Filled limits (calls + 1) after where
  limited := limited
  numbered := numbered
  size := size
  shares := by
    intro channel pooled
    rw [counted, filled.shares channel pooled, limits.share_succ pooled]

/-- The next call goes to its home, where a channel is made if there is none. -/
theorem acquire (filled : Filled limits calls pool) :
    ∃ created after, pool.acquire none = .ok ⟨limits.home calls, created, after⟩ ∧
      Filled limits (calls + 1) after := by
  obtain ⟨bounded, needed, enough⟩ := limits.needed_iff.mp filled.size
  have acquiring := acquiring_acquire filled.numbered none
  generalize told : pool.acquire none = result at acquiring
  cases acquiring with
  | @reused position least usable =>
      rw [filled.limited] at usable
      obtain rfl := filled.home_of_reused least usable
      refine ⟨false, _, rfl, filled.count filled.limited (filled.numbered.acquireAt _) ?_ ?_⟩
      · rw [size_acquireAt]
        refine limits.needed_iff.mpr ⟨bounded, ?_, ?_⟩
        · intro made early
          exact Nat.lt_succ_of_lt (needed made early)
        · intro room
          have few := Nat.lt_of_le_of_lt (enough room)
            (Nat.mul_lt_mul_of_pos_right room limits.ceiling_pos)
          have inside := least.pooled
          rw [Limits.home, if_pos few, Nat.div_lt_iff_lt_mul limits.ceiling_pos] at inside
          exact inside
      · exact activeCalls_acquireAt pool least.pooled
  | made room saturated supplied =>
      rw [filled.limited] at room saturated
      have here := filled.home_of_made room saturated
      refine ⟨true, pool.grow.acquireAt pool.size, by rw [here],
        filled.count filled.limited (filled.numbered.grow.acquireAt _) ?_ ?_⟩
      · have busy := filled.calls_of_made room saturated
        have positive := limits.ceiling_pos
        rw [size_acquireAt, size_grow]
        refine limits.needed_iff.mpr ⟨room, ?_, ?_⟩
        · intro made early
          have most := Nat.mul_le_mul_right limits.ceiling (Nat.le_of_lt_succ early)
          omega
        · intro more
          rw [Nat.succ_mul]
          omega
      · intro channel
        rw [activeCalls_acquireAt _ (by simp), activeCalls_grow, here]
  | refused room saturated supplied => cases supplied

/-- Eight calls on three channels with a ceiling of two. -/
example : (List.range 8).map (Limits.home ⟨3, 2, by decide, by decide⟩) =
    [0, 0, 1, 1, 2, 2, 0, 1] := by
  decide

end Filled

end Pool

end AffinityPool
