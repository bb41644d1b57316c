import ContentFilter.Regex.Room
import Mathlib.Algebra.BigOperators.Ring.List
import Mathlib.Algebra.Order.Ring.Nat
/-!
How much an automaton grows. The room that the steps of building it take adds up, so what each part
of an expression takes is bounded along the parts that it is made of; and where the bound for the
whole keeps within the limit, no step passes it.
-/
namespace ContentFilter.Regex.Room

open Unicode (Ranges ByteRange ByteSequence)

section Costs

variable {α β : Type}

/-- As long as there is room for `n` bytes more the step is made, and takes no more than these. -/
def Costs (n : Nat) (g : Growth α) : Prop :=
  ∀ e : Extent, e.room + n ≤ limit → ∃ a e', g e = some (a, e') ∧ e'.room ≤ e.room + n

theorem Costs.mono {m n : Nat} {g : Growth α} (costs : Costs m g) (le : m ≤ n) : Costs n g := by
  intro e room
  obtain ⟨a, e', made, taken⟩ := costs e (by omega)
  exact ⟨a, e', made, by omega⟩

theorem costs_pure (a : α) : Costs 0 (pure a : Growth α) :=
  fun e _ => ⟨a, e, rfl, Nat.le_refl _⟩

theorem costs_bind {m n : Nat} {g : Growth α} {next : α → Growth β} (first : Costs m g)
    (second : ∀ a, Costs n (next a)) : Costs (m + n) (g >>= next) := by
  intro e room
  obtain ⟨a, e', made, taken⟩ := first e (by omega)
  obtain ⟨b, e'', ended, more⟩ := second a e' (by omega)
  refine ⟨b, e'', ?_, by omega⟩
  change (g e).bind _ = _
  rw [made]
  exact ended

theorem costs_for (n : α → Nat) (step : α → Growth Unit) (elements : List α)
    (each : ∀ a ∈ elements, Costs (n a) (step a)) :
    Costs (elements.map n).sum (elements.forM step) := by
  induction elements with
  | nil => exact costs_pure ()
  | cons a rest ih =>
      rw [List.map_cons, List.sum_cons]
      exact costs_bind (each a List.mem_cons_self) fun _ =>
        ih fun b member => each b (List.mem_cons_of_mem a member)

theorem costs_grow (states lists : Nat) : Costs (stateBytes * states + lists) (grow states lists) := by
  intro e room
  have added : ({ states := e.states + states, lists := e.lists + lists } : Extent).room =
      e.room + (stateBytes * states + lists) := by
    simp only [Extent.room, Nat.mul_add]
    omega
  exact ⟨(), _, if_pos (added ▸ room), Nat.le_of_eq added⟩

theorem costs_new_states (count : Nat) : Costs (32 * count) (newStates count) :=
  costs_grow count 0

theorem costs_new_state (list : Nat) : Costs (32 + list) (newState list) := by
  intro e room
  obtain ⟨_, e', grown, taken⟩ := costs_grow 1 list e room
  refine ⟨e.states, e', ?_, taken⟩
  rw [newState, grown]
  rfl

theorem costs_link (fork : Bool) : Costs 4 (link fork) := by
  cases fork with
  | false => exact (costs_grow 0 0).mono (by decide)
  | true => exact costs_grow 0 branchBytes

end Costs

/-! ### Sets -/

section Cached

variable {α β κ : Type}

/-- The same for a step that looks into a table of former states, whatever there is in it. -/
def CostsCached (n : Nat) (g : StateT (Cache κ) Growth α) : Prop := ∀ cache, Costs n (g.run cache)

theorem cached_bind {m n : Nat} {g : StateT (Cache κ) Growth α}
    {next : α → StateT (Cache κ) Growth β} (first : CostsCached m g)
    (second : ∀ a, CostsCached n (next a)) : CostsCached (m + n) (g >>= next) :=
  fun cache => costs_bind (first cache) fun made => second made.1 made.2

theorem cached_pure (a : α) : CostsCached 0 (pure a : StateT (Cache κ) Growth α) :=
  fun cache => costs_pure (a, cache)

theorem cached_lift {n : Nat} {g : Growth α} (costs : Costs n g) :
    CostsCached n (StateT.lift g : StateT (Cache κ) Growth α) :=
  fun cache => (costs_bind costs fun a => costs_pure (a, cache)).mono (Nat.le_refl _)

theorem costs_cached [BEq κ] (slot : Nat) (key : κ) (list : Nat) :
    CostsCached (32 + list) (cached slot key list) := by
  intro cache
  have make : Costs (32 + list) (cached.make slot key list cache) :=
    (costs_bind (costs_new_state list) fun state => costs_pure (state, _)).mono (Nat.le_refl _)
  have known (state : Nat) : Costs (32 + list) (pure (state, cache) : Growth (Nat × Cache κ)) :=
    (costs_pure _).mono (Nat.zero_le _)
  change Costs _ (cached slot key list cache)
  unfold cached
  split
  · split
    · exact known _
    · exact make
  · exact make

theorem cached_map (n : α → Nat) (step : α → StateT (Cache κ) Growth β) (elements : List α)
    (each : ∀ a ∈ elements, CostsCached (n a) (step a)) :
    CostsCached (elements.map n).sum (elements.mapM step) := by
  induction elements with
  | nil => exact cached_pure []
  | cons a rest ih =>
      rw [List.mapM_cons, List.map_cons, List.sum_cons]
      refine cached_bind (each a List.mem_cons_self) fun b => ?_
      refine cached_bind (n := 0) (ih fun c member => each c (List.mem_cons_of_mem a member)) ?_
      exact fun bs => cached_pure _

theorem cached_for (n : α → Nat) (step : α → StateT (Cache κ) Growth Unit) (elements : List α)
    (each : ∀ a ∈ elements, CostsCached (n a) (step a)) :
    CostsCached (elements.map n).sum (elements.forM step) := by
  induction elements with
  | nil => exact cached_pure ()
  | cons a rest ih =>
      rw [List.map_cons, List.sum_cons]
      exact cached_bind (each a List.mem_cons_self) fun _ =>
        ih fun b member => each b (List.mem_cons_of_mem a member)

end Cached

theorem sum_add_each (n : α → Nat) (more : Nat) (elements : List α) :
    (elements.map fun a => n a + more).sum = (elements.map n).sum + more * elements.length := by
  rw [List.sum_map_add, List.map_const', List.sum_replicate_nat, Nat.mul_comm]

def total (sequences : List ByteSequence) : Nat := (sequences.map List.length).sum

theorem by_first_total (sequences : List ByteSequence) :
    ((byFirst sequences).map fun group => total group.2 + 1).sum ≤ total sequences := by
  induction sequences with
  | nil => exact Nat.le_refl 0
  | cons sequence rest ih =>
      cases sequence with
      | nil => simpa [byFirst, total] using ih
      | cons range tail =>
          simp only [total, List.map_cons, List.sum_cons, List.length_cons] at ih ⊢
          rw [byFirst]
          cases groups : byFirst rest with
          | nil => simp
          | cons group groups' =>
              obtain ⟨next, tails⟩ := group
              rw [groups] at ih
              simp only [List.map_cons, List.sum_cons] at ih
              dsimp only
              split
              all_goals
                simp only [List.map_cons, List.sum_cons, List.map_nil, List.sum_nil]
                omega

theorem costs_start_of (last depth : Nat) (sequences : List ByteSequence) :
    CostsCached (40 * total sequences + 32) (startOf last depth sequences) := by
  induction depth generalizing sequences with
  | zero => exact fun cache => (cached_pure last cache).mono (Nat.zero_le _)
  | succ depth ih =>
      have step (group : ByteRange × List ByteSequence) :
          CostsCached (40 * total group.2 + 32) (do
            let next ← if group.2.all List.isEmpty then pure last else startOf last depth group.2
            pure (Transition.mk group.1 next)) := by
        have made (next : Nat) : CostsCached (κ := List Transition) 0
            (pure (Transition.mk group.1 next)) := cached_pure _
        dsimp only
        split
        · exact fun cache => (cached_bind (cached_pure last) made cache).mono (Nat.zero_le _)
        · exact cached_bind (m := 40 * total group.2 + 32) (ih group.2) made
      have groups := cached_map (fun group => 40 * total group.2 + 32) _ (byFirst sequences)
        fun group _ => step group
      have all := cached_bind groups fun transitions =>
        costs_cached ((transitions.foldl Transition.hash hashStart).toNat % 10000) transitions
          (transitionBytes * (byFirst sequences).length)
      have bound := by_first_total sequences
      rw [startOf]
      refine fun cache => (all cache).mono ?_
      rw [sum_add_each, transitionBytes, List.sum_map_mul_left]
      rw [sum_add_each] at bound
      omega

theorem costs_class_forward (bytes : List ByteSequence) :
    Costs (64 + 40 * total bytes) (classForward bytes) := by
  refine (costs_bind (costs_new_state 0) fun last =>
    costs_bind (costs_start_of last 4 bytes {}) fun _ => costs_pure ()).mono ?_
  omega

theorem costs_states_before (sequence : ByteSequence) (last : Nat) :
    CostsCached (32 * sequence.length) (sequence.foldlM stateBefore last) := by
  induction sequence generalizing last with
  | nil => exact cached_pure last
  | cons range sequence ih =>
      rw [List.foldlM_cons, List.length_cons, Nat.mul_add, Nat.add_comm]
      exact cached_bind (costs_cached _ _ 0) fun state => ih state

theorem costs_class_backward (bytes : List ByteSequence) :
    Costs (64 + 4 * bytes.length + 32 * total bytes) (classBackward bytes) := by
  have branch (last : Nat) (sequence : ByteSequence) :
      CostsCached (32 * sequence.length + 4) (do
        let _ ← sequence.foldlM stateBefore last
        link true : StateT (Cache Transition) Growth Unit) :=
    cached_bind (costs_states_before sequence last) fun _ => cached_lift (costs_link true)
  have sum : (bytes.map fun sequence => 32 * sequence.length + 4).sum =
      4 * bytes.length + 32 * total bytes := by
    rw [sum_add_each, List.sum_map_mul_left, total]
    omega
  have all (last : Nat) := cached_for _ _ bytes fun sequence _ => branch last sequence
  refine (costs_bind (costs_new_state 0) fun _ => costs_bind (costs_new_state 0) fun last =>
    costs_bind (all last {}) fun _ => costs_pure ()).mono ?_
  omega

theorem costs_class_ascii (ranges : Ranges) :
    Costs (64 + 8 * ranges.length) (classAscii ranges) := by
  refine (costs_bind (costs_new_states 1) fun _ =>
    costs_bind (costs_new_state _) fun _ => costs_pure ()).mono ?_
  rw [transitionBytes]
  omega

/-- A set takes no more than is said of it, in whichever order its bytes are read. -/
theorem costs_set (d : Direction) (ranges : Ranges) (bytes : List ByteSequence) :
    Costs (setAtMost ranges bytes) (setStates d ranges bytes) := by
  have bound : 64 + 8 * ranges.length + 4 * bytes.length + 40 * total bytes =
      setAtMost ranges bytes := by
    rw [setAtMost, total, List.length_flatten]
  unfold setStates
  split
  · exact (costs_class_ascii ranges).mono (by omega)
  · cases d with
    | forward => exact (costs_class_forward bytes).mono (by omega)
    | backward => exact (costs_class_backward bytes).mono (by omega)

/-! ### Choices between strings -/

def weight (strings : List (List Nat)) : Nat := (strings.map fun string => 76 * string.length + 4).sum

theorem weight_cons (string : List Nat) (strings : List (List Nat)) :
    weight (string :: strings) = 76 * string.length + 4 + weight strings := rfl

theorem add_rest_weight (byte : Nat) (rest : List Nat) (groups : List (Nat × List (List Nat))) :
    ((addRest byte rest groups).map fun group => weight group.2 + 72).sum ≤
      (groups.map fun group => weight group.2 + 72).sum + 76 * (rest.length + 1) := by
  induction groups with
  | nil => simp only [addRest, List.map_cons, List.map_nil, List.sum_cons, List.sum_nil, weight]; omega
  | cons group groups ih =>
      rw [addRest]
      split
      all_goals
        simp only [List.map_cons, List.sum_cons, weight_cons]
        omega

def partRoom (part : List (List Nat)) : Nat :=
  ((byFirstByte part).map fun group => weight group.2 + 72).sum

theorem part_room_le (part : List (List Nat)) : partRoom part + 4 * part.length ≤ weight part := by
  rw [partRoom]
  induction part with
  | nil => exact Nat.le_refl 0
  | cons string part ih =>
      rw [weight_cons, List.length_cons]
      cases string with
      | nil =>
          rw [byFirstByte]
          omega
      | cons byte rest =>
          have added := add_rest_weight byte rest (byFirstByte part)
          rw [byFirstByte, List.length_cons]
          omega

theorem between_ends_weight (strings : List (List Nat)) :
    0 < (betweenEnds strings).length ∧
      ((betweenEnds strings).map weight).sum + 4 * ((betweenEnds strings).length - 1) =
        weight strings := by
  induction strings with
  | nil => exact ⟨Nat.one_pos, rfl⟩
  | cons string strings ih =>
      obtain ⟨some_part, same⟩ := ih
      cases string with
      | nil =>
          simp only [betweenEnds, List.map_cons, List.sum_cons, List.length_cons, weight_cons]
          rw [show weight [] = 0 from rfl, List.length_nil]
          omega
      | cons byte rest =>
          rw [betweenEnds.eq_3 _ _ (by simp)]
          split
          · rename_i nothing
            rw [nothing] at some_part
            cases some_part
          · rename_i part parts split
            rw [split] at same
            simp only [List.map_cons, List.sum_cons, List.length_cons, weight_cons] at same ⊢
            omega

theorem drop_repeated_ends_weight (strings : List (List Nat)) :
    weight (dropRepeatedEnds strings) ≤ weight strings := by
  fun_induction dropRepeatedEnds strings with
  | case1 rest ih =>
      rw [weight_cons]
      omega
  | case2 => exact Nat.le_refl _

theorem parts_room_le (parts : List (List (List Nat))) :
    (parts.map partRoom).sum + 4 * (parts.filter fun part => !part.isEmpty).length ≤
      (parts.map weight).sum := by
  induction parts with
  | nil => exact Nat.le_refl 0
  | cons part parts ih =>
      have here := part_room_le part
      rw [List.map_cons, List.sum_cons, List.map_cons, List.sum_cons]
      cases part with
      | nil =>
          rw [List.filter_cons_of_neg (by simp)]
          omega
      | cons string part =>
          rw [List.filter_cons_of_pos (by simp), List.length_cons]
          rw [List.length_cons] at here
          omega

theorem costs_followers (below : List (List Nat) → Growth Unit)
    (groups : List (Nat × List (List Nat)))
    (each : ∀ strings, Costs (weight strings + 32) (below strings)) :
    Costs (groups.map fun group => weight group.2 + 72).sum (followerStates below groups) := by
  have sum : (groups.map fun group => weight group.2 + 72).sum =
      (groups.map fun group => weight group.2 + 32).sum + 40 * groups.length := by
    rw [sum_add_each, sum_add_each]
    omega
  rw [sum]
  refine costs_bind (costs_for _ _ groups fun group _ => each group.2) fun _ => ?_
  split
  · exact costs_pure ()
  · exact (costs_new_states 1).mono (by rw [List.length_singleton]; omega)
  · rename_i nonempty _
    have more := List.length_pos_iff.mpr nonempty
    refine (costs_grow 1 _).mono ?_
    unfold stateBytes transitionBytes
    omega

theorem costs_string_states (depth : Nat) (strings : List (List Nat)) :
    Costs (weight strings + 32) (stringStates depth strings) := by
  -- the strings of each depth are shorter by a byte, which pays for the states in front of them
  induction depth generalizing strings with
  | zero => exact (costs_pure ()).mono (Nat.zero_le _)
  | succ depth ih =>
      let parts := betweenEnds (dropRepeatedEnds strings)
      have all := costs_for partRoom _ parts fun part _ =>
        costs_followers (stringStates depth) (byFirstByte part) ih
      have whole := costs_bind all fun _ => costs_grow 1
        (branchBytes * ((parts.filter fun part => !part.isEmpty).length + (parts.length - 1)))
      have room := parts_room_le parts
      have same : (parts.map weight).sum + 4 * (parts.length - 1) =
          weight (dropRepeatedEnds strings) := (between_ends_weight _).2
      have dropped := drop_repeated_ends_weight strings
      rw [stringStates]
      split
      · exact (costs_pure ()).mono (Nat.zero_le _)
      · refine whole.mono ?_
        unfold stateBytes branchBytes
        omega

theorem costs_choice_of_strings (strings : List (List Nat)) :
    Costs (weight strings + 64) (choiceOfStrings strings) := by
  refine (costs_bind (costs_new_states 1) fun _ => costs_string_states _ strings).mono ?_
  omega

theorem order_length {α : Type} (d : Direction) (l : List α) : (d.order l).length = l.length := by
  cases d with
  | forward => rfl
  | backward => exact List.length_reverse

theorem strings_weight (d : Direction) (r : Layout) (strings : List Text)
    (found : strings? r = some strings) :
    weight (strings.map fun s => d.order (utf8 s)) + 64 ≤ atMost r := by
  induction r generalizing strings with
  | alt first rest _ ih =>
      unfold strings? at found
      split at found
      · rename_i s t whole
        obtain ⟨rfl, rfl⟩ := Layout.alt.inj whole
        obtain rfl := Option.some.inj found
        simp only [List.map_cons, List.map_nil, weight_cons, order_length, atMost]
        rw [show weight [] = 0 from rfl]
        omega
      · rename_i s others _ whole
        obtain ⟨rfl, rfl⟩ := Layout.alt.inj whole
        obtain ⟨later, listed, rfl⟩ := Option.map_eq_some_iff.mp found
        have bound := ih later listed
        rw [List.map_cons, weight_cons, order_length, atMost, atMost]
        omega
      · cases found
  | _ => cases found

/-! ### Expressions -/

def Rank.room : Rank → Nat
  | .first => 0
  | .second => 72
  | .later => 8

theorem costs_tie (rank : Rank) (fork : Bool) : Costs rank.room (rank.tie fork) := by
  have ties : Costs 8 (do link true; link fork; pure false : Part) :=
    costs_bind (costs_link true) fun _ => costs_bind (costs_link fork) fun _ => costs_pure false
  cases rank with
  | first => exact costs_pure fork
  | second => exact costs_bind (costs_new_states 2) fun _ => ties
  | later => exact ties

section Part

variable {body : Part} {n : Nat} (costs : Costs n body)

include costs

theorem costs_again (copies : Nat) (fork : Bool) :
    Costs (copies * (n + 4)) (body.again copies fork) := by
  induction copies generalizing fork with
  | zero => exact (costs_pure fork).mono (Nat.zero_le _)
  | succ copies ih =>
      refine (costs_bind costs fun fork' =>
        costs_bind (costs_link fork) fun _ => ih fork').mono ?_
      rw [Nat.succ_mul]
      omega

theorem costs_copies (copies : Nat) : Costs (copies * (n + 4) + 32) (body.copies copies) := by
  cases copies with
  | zero => exact (costs_bind (costs_new_states 1) fun _ => costs_pure false).mono (by omega)
  | succ copies =>
      refine (costs_bind costs fun fork => costs_again costs copies fork).mono ?_
      rw [Nat.succ_mul]
      omega

theorem costs_optionals (copies : Nat) (fork : Bool) :
    Costs (copies * (n + 44)) (body.optionals copies fork) := by
  induction copies generalizing fork with
  | zero => exact (costs_pure fork).mono (Nat.zero_le _)
  | succ copies ih =>
      refine (costs_bind (costs_new_states 1) fun _ => costs_bind costs fun fork' =>
        costs_bind (costs_link fork) fun _ => costs_bind (costs_grow 0 _) fun _ =>
          ih fork').mono ?_
      rw [Nat.succ_mul copies]
      unfold stateBytes branchBytes
      omega

theorem costs_optional : Costs (n + 76) body.optional := by
  refine (costs_bind (costs_new_states 1) fun _ => costs_bind costs fun fork =>
    costs_bind (costs_new_states 1) fun _ => costs_bind (costs_grow 0 _) fun _ =>
      costs_bind (costs_link fork) fun _ => costs_pure false).mono ?_
  unfold stateBytes branchBytes
  omega

theorem costs_star (readsAlways : Bool) : Costs (n + 116) (body.star readsAlways) := by
  cases readsAlways with
  | true =>
      refine (costs_bind (costs_new_states 1) fun _ => costs_bind costs fun fork =>
        costs_bind (costs_link true) fun _ => costs_bind (costs_link fork) fun _ =>
          costs_pure true).mono ?_
      omega
  | false =>
      refine (costs_bind costs fun fork => costs_bind (costs_new_states 3) fun _ =>
        costs_bind (costs_link fork) fun _ => costs_bind (costs_grow 0 _) fun _ =>
          costs_pure false).mono ?_
      unfold stateBytes branchBytes
      omega

theorem costs_at_least (least : Nat) :
    Costs (least * (n + 4) + 72) (body.atLeast least) := by
  refine (costs_bind (costs_copies costs least) fun fork => costs_bind (costs_new_states 1)
    fun _ => costs_bind (costs_link fork) fun _ => costs_bind (costs_link true) fun _ =>
      costs_pure true).mono ?_
  omega

theorem costs_between (least most : Nat) :
    Costs (least * (n + 4) + (most - least) * (n + 44) + 68) (body.between least most) := by
  have passed (fork : Bool) : Costs ((most - least) * (n + 44) + 36) (do
      newStates 1
      let fork' ← body.optionals (most - least) fork
      link fork'
      pure false : Part) := by
    refine (costs_bind (costs_new_states 1) fun _ => costs_bind (costs_optionals costs _ fork)
      fun fork' => costs_bind (costs_link fork') fun _ => costs_pure false).mono ?_
    omega
  refine (costs_bind (n := (most - least) * (n + 44) + 36) (costs_copies costs least)
    fun fork => ?_).mono (by omega)
  split
  · exact (costs_pure fork).mono (Nat.zero_le _)
  · exact passed fork

theorem costs_repeated (readsAlways : Bool) (least : Nat) (most : Option Nat) :
    Costs ((n + 44) * max least (most.getD 1) + 80) (body.repeated readsAlways least most) := by
  unfold Part.repeated
  split
  · refine (costs_star costs readsAlways).mono ?_
    change n + 116 ≤ (n + 44) * 1 + 80
    omega
  · refine (costs_optional costs).mono ?_
    change n + 76 ≤ (n + 44) * 1 + 80
    omega
  · refine (costs_at_least costs least).mono ?_
    have copies : least * (n + 4) ≤ (n + 44) * max least 1 := by
      rw [Nat.mul_comm]
      exact Nat.mul_le_mul (by omega) (by omega)
    rw [Option.getD_none]
    omega
  · rename_i most _
    refine (costs_between costs least most).mono ?_
    have copies : least * (n + 4) ≤ (n + 44) * least := by
      rw [Nat.mul_comm]
      exact Nat.mul_le_mul_right _ (by omega)
    have both : (n + 44) * least + (most - least) * (n + 44) = (n + 44) * max least most := by
      rw [Nat.mul_comm (most - least), ← Nat.mul_add]
      congr 1
      omega
    rw [Option.getD_some]
    omega

theorem costs_bracketed : Costs (n + 68) (part.bracketed body) := by
  refine (costs_bind (costs_new_states 1) fun _ => costs_bind costs fun fork =>
    costs_bind (costs_new_states 1) fun _ => costs_bind (costs_link fork) fun _ =>
      costs_pure false).mono ?_
  omega

end Part

section Two

variable {first second : Part} {m n : Nat} (before : Costs m first)

include before

theorem costs_and_then (after : Costs n second) : Costs (m + n + 4) (first.andThen second) := by
  refine (costs_bind before fun fork => costs_bind after fun fork' =>
    costs_bind (costs_link fork) fun _ => costs_pure fork').mono ?_
  omega

theorem costs_choice (after : Costs (n + Rank.second.room) second) :
    Costs (m + n + 84) (do
      let fork ← first
      link true
      link fork
      second) := by
  refine (costs_bind before fun fork => costs_bind (costs_link true) fun _ =>
    costs_bind (costs_link fork) fun _ => after).mono ?_
  rw [Rank.room]
  omega

theorem costs_later_choice (after : Costs (n + Rank.later.room) second) (rank : Rank) :
    Costs (m + n + 84 + rank.room) (do
      let fork ← first
      let _ ← rank.tie fork
      second) := by
  refine (costs_bind before fun fork =>
    costs_bind (costs_tie rank fork) fun _ => after).mono ?_
  rw [Rank.room]
  omega

end Two

/-- A part takes no more than is said of its layout, and what ties it. -/
theorem costs_part (d : Direction) (r : Layout) (rank : Rank) :
    Costs (atMost r + rank.room) (part d r rank) := by
  have tied {m : Nat} {body : Part} (rank : Rank) (costs : Costs m body) :
      Costs (m + rank.room) (body >>= rank.tie) :=
    costs_bind costs fun fork => costs_tie rank fork
  -- the rank is any, as each part of a choice is tied in its own way
  induction r generalizing rank with
  | empty => exact costs_bind (costs_new_states 1) fun _ => costs_tie rank false
  | look => exact costs_bind (costs_new_states 1) fun _ => costs_tie rank false
  | literal text =>
      rw [part]
      refine (costs_bind (costs_new_states _) fun _ => costs_tie rank false).mono ?_
      rw [atMost]
      omega
  | one ranges bytes =>
      exact costs_bind (costs_set d ranges bytes) fun _ => costs_tie rank false
  | seq first second before after =>
      rw [part.eq_def]
      cases d with
      | forward => exact tied rank (costs_and_then (before .first) (after .first))
      | backward =>
          refine (tied rank (costs_and_then (after .first) (before .first))).mono ?_
          rw [atMost]
          simp only [Rank.room]
          omega
  | alt first second before after =>
      rw [part.eq_def]
      dsimp only
      split
      · rename_i strings found
        have bound := strings_weight d _ strings found
        refine (costs_bind (costs_choice_of_strings _) fun _ => costs_pure false).mono ?_
        omega
      · exact costs_choice (before .first) (after .second)
      · exact costs_later_choice (before .first) (after .later) _
  | rep body least most greedy ih =>
      rw [part]
      exact tied rank (costs_repeated (ih .first) _ least most)
  | group number body ih =>
      rw [part.eq_def]
      cases d with
      | forward => exact tied rank (costs_bracketed (ih .first))
      | backward => exact (tied rank (ih .first)).mono (by rw [atMost]; simp only [Rank.room]; omega)

theorem automaton_of_at_most (d : Direction) (r : Layout)
    (small : atMost r + surrounds ≤ limit) : ((automaton d r).run {}).isSome = true := by
  have ended {n : Nat} {body : Part} (costs : Costs n body) :
      Costs (n + 36) (do let fork ← body; newStates 1; link fork) :=
    costs_bind costs fun fork => costs_bind (costs_new_states 1) fun _ => costs_link fork
  have begun {n : Nat} {rest : Growth Unit} (anchored : Bool) (costs : Costs n rest) :
      Costs (n + 112) (if anchored then do newStates 1; rest
        else do newStates 3; grow 0 (transitionBytes + 2 * branchBytes); rest) := by
    split
    · exact (costs_bind (costs_new_states 1) fun _ => costs).mono (by omega)
    · refine (costs_bind (costs_new_states 3) fun _ =>
        costs_bind (costs_grow 0 _) fun _ => costs).mono ?_
      unfold stateBytes transitionBytes branchBytes
      omega
  have body := costs_part d r .first
  have whole : Costs (atMost r + surrounds) (automaton d r) := by
    cases d with
    | forward => exact begun _ (ended (costs_bracketed body))
    | backward => exact (begun _ (ended body)).mono (by rw [Rank.room, surrounds]; omega)
  obtain ⟨_, e, built, -⟩ := whole {} (by simpa [Extent.room] using small)
  rw [StateT.run, built]
  rfl

end ContentFilter.Regex.Room
