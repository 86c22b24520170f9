import Mathlib.Data.List.Chain
import Mathlib.Data.List.Nodup
import Mathlib.Data.List.Perm.Subperm
import MachineCloud.Failure.Chain

/-!
# The way from an error on

The links of errors may form cycles, and then the way from an error to the next one and on has no end
(`Reaches`).  Its chain ends where that way would come back to an error that it has passed.  A bound on
the number of links is nowhere felt (`trail_walk`), and nothing is lost: whatever the way reaches is on
the chain (`Trail.mem_of_reaches`).  So the first API error on the chain is the first one on the way
(`chain_spec`).
-/

namespace MachineCloud.Failure

/-! ## The way -/

/-- The error after another one: its cause if it has one, else its context unless that is suppressed. -/
inductive Next (links : List Link) (i j : Nat) : Prop
  | cause {l : Link} (hl : links[i]? = some l) (hcause : l.cause = some j) (hj : j < links.length)
  | context {l : Link} (hl : links[i]? = some l) (hcause : l.cause = none)
      (hsuppressed : l.suppressed = false) (hcontext : l.context = some j) (hj : j < links.length)

/-- Whether an error is reached from `start` by so many steps to the next one. -/
inductive Reaches (links : List Link) (start : Nat) : Nat → Nat → Prop
  | start : Reaches links start 0 start
  | step {n i j : Nat} (h : Reaches links start n i) (hnext : Next links i j) :
      Reaches links start (n + 1) j

/-- Whether an error came from the API with a status. -/
def HasStatus (links : List Link) (i : Nat) (status : Value) : Prop :=
  ∃ special reason body cause context suppressed,
    links[i]? = some ⟨.api special status reason body, cause, context, suppressed⟩

variable {links : List Link}

theorem successor?_eq_some_iff {i j : Nat} : successor? links i = some j ↔ Next links i j := by
  have hsuccessor {l : Link} (hl : links[i]? = some l) : successor? links i =
      (l.cause <|> if l.suppressed then none else l.context).bind fun j =>
        if j < links.length then some j else none := by
    rw [successor?, hl]
    rfl
  constructor
  · intro h
    cases hl : links[i]? with
    | none =>
      rw [successor?, hl] at h
      cases h
    | some l =>
      rw [hsuccessor hl] at h
      obtain ⟨k, hk, h⟩ := Option.bind_eq_some_iff.mp h
      obtain ⟨hlt, hsome⟩ := Option.ite_none_right_eq_some.mp h
      obtain rfl := Option.some.inj hsome
      cases hcause : l.cause with
      | some k' =>
        rw [hcause] at hk
        cases hk
        exact .cause hl hcause hlt
      | none =>
        rw [hcause] at hk
        obtain ⟨hsuppressed, hcontext⟩ := Option.ite_none_left_eq_some.mp hk
        exact .context hl hcause (Bool.eq_false_iff.mpr hsuppressed) hcontext hlt
  · intro h
    cases h with
    | cause hl hcause hj =>
      rw [hsuccessor hl, hcause]
      exact if_pos hj
    | context hl hcause hsuppressed hcontext hj =>
      rw [hsuccessor hl, hcause, hsuppressed, hcontext]
      exact if_pos hj

theorem Next.lt {i j : Nat} (h : Next links i j) : j < links.length := by
  cases h with
  | cause _ _ hj => exact hj
  | context _ _ _ _ hj => exact hj

theorem Next.unique {i j k : Nat} (hj : Next links i j) (hk : Next links i k) : j = k :=
  Option.some.inj ((successor?_eq_some_iff.mpr hj).symm.trans (successor?_eq_some_iff.mpr hk))

theorem Reaches.unique {start n i j : Nat} (hi : Reaches links start n i)
    (hj : Reaches links start n j) : i = j := by
  induction hi generalizing j with
  | start =>
    cases hj
    rfl
  | step _ hnext ih =>
    cases hj with
    | step hj hnext' =>
      obtain rfl := ih hj
      exact hnext.unique hnext'

theorem apiStatus?_eq_some_iff {i : Nat} {status : Value} :
    apiStatus? links i = some status ↔ HasStatus links i status := by
  constructor
  · intro h
    rw [apiStatus?] at h
    split at h
    · next special status' reason body cause context suppressed hl =>
      cases h
      exact ⟨special, reason, body, cause, context, suppressed, hl⟩
    · cases h
  · rintro ⟨special, reason, body, cause, context, suppressed, hl⟩
    rw [apiStatus?, hl]

/-! ## The walk along it -/

/-- What is passed by a walk that has seen some errors and comes to the next one, if there is one.
It ends only where there is none, or at one that it has seen. -/
inductive Trail (links : List Link) : List Nat → Option Nat → List Nat → Prop
  | ended {seen : List Nat} : Trail links seen none []
  | repeated {seen : List Nat} {i : Nat} (h : i ∈ seen) : Trail links seen (some i) []
  | passed {seen : List Nat} {i : Nat} {rest : List Nat} (h : i ∉ seen)
      (hrest : Trail links (i :: seen) (successor? links i) rest) :
      Trail links seen (some i) (i :: rest)

/-- Different numbers below `n` are all of them if they are as many. -/
theorem mem_of_length_le {seen : List Nat} {n i : Nat} (hnodup : seen.Nodup)
    (hlt : ∀ j ∈ seen, j < n) (hlength : n ≤ seen.length) (hi : i < n) : i ∈ seen := by
  by_contra hnew
  have hsubset : i :: seen ⊆ List.range n := by
    intro j hj
    rw [List.mem_range]
    rcases List.mem_cons.mp hj with rfl | hj
    · exact hi
    · exact hlt j hj
  have hle : seen.length + 1 ≤ n := by
    have hlength' := (List.subperm_of_subset (hnodup.cons hnew) hsubset).length_le
    rwa [List.length_cons, List.length_range] at hlength'
  omega

/-- The bound is never what ends a walk: it is as large as the number of errors that are not seen. -/
theorem trail_walk {fuel : Nat} {seen : List Nat} {next? : Option Nat} (hnodup : seen.Nodup)
    (hseen : ∀ j ∈ seen, j < links.length) (hnext : ∀ i ∈ next?, i < links.length)
    (hfuel : links.length ≤ fuel + seen.length) :
    Trail links seen next? (walk links fuel seen next?) := by
  induction fuel generalizing seen next? with
  | zero =>
    rw [walk]
    cases next? with
    | none => exact .ended
    | some i =>
      rw [Nat.zero_add] at hfuel
      exact .repeated (mem_of_length_le hnodup hseen hfuel (hnext i rfl))
  | succ fuel ih =>
    cases next? with
    | none => exact .ended
    | some i =>
      rw [walk]
      split
      · next h => exact .repeated h
      · next h =>
        refine .passed h (ih (hnodup.cons h) ?_ ?_ ?_)
        · intro j hj
          rcases List.mem_cons.mp hj with rfl | hj
          · exact hnext j rfl
          · exact hseen j hj
        · intro j hj
          exact (successor?_eq_some_iff.mp hj).lt
        · rw [List.length_cons]
          omega

namespace Trail

variable {seen : List Nat} {next? : Option Nat} {chain : List Nat}

theorem unique {chain' : List Nat} (h : Trail links seen next? chain)
    (h' : Trail links seen next? chain') : chain = chain' := by
  induction h generalizing chain' with
  | ended =>
    cases h'
    rfl
  | repeated hseen =>
    cases h' with
    | repeated => rfl
    | passed hnew => exact absurd hseen hnew
  | passed hnew _ ih =>
    cases h' with
    | repeated hseen => exact absurd hseen hnew
    | passed _ hrest => rw [ih hrest]

theorem notMem_seen (h : Trail links seen next? chain) : ∀ i ∈ chain, i ∉ seen := by
  induction h with
  | ended => nofun
  | repeated => nofun
  | passed hnew _ ih =>
    intro j hj
    rcases List.mem_cons.mp hj with rfl | hj
    · exact hnew
    · exact fun hseen => ih j hj (List.mem_cons_of_mem _ hseen)

theorem nodup (h : Trail links seen next? chain) : chain.Nodup := by
  induction h with
  | ended => exact List.nodup_nil
  | repeated => exact List.nodup_nil
  | passed _ hrest ih => exact ih.cons fun hmem => hrest.notMem_seen _ hmem List.mem_cons_self

/-- What comes next has been seen, or the walk passes it first. -/
theorem head?_eq_or_mem {i : Nat} (h : Trail links seen (some i) chain) :
    chain.head? = some i ∨ i ∈ seen := by
  cases h with
  | repeated hseen => exact .inr hseen
  | passed => exact .inl rfl

theorem eq_nil (h : Trail links seen none chain) : chain = [] := by
  cases h
  rfl

/-- Each error that is passed is the next one after the one before it. -/
theorem isChain (h : Trail links seen next? chain) : chain.IsChain (Next links) := by
  induction h with
  | ended => exact .nil
  | repeated => exact .nil
  | @passed seen i rest _ hrest ih =>
    rw [List.isChain_cons]
    refine ⟨?_, ih⟩
    intro j hj
    cases hrest' : successor? links i with
    | none =>
      rw [hrest'] at hrest
      rw [hrest.eq_nil] at hj
      cases hj
    | some k =>
      rw [hrest'] at hrest
      rcases hrest.head?_eq_or_mem with hhead | hmem
      · obtain rfl : k = j := Option.some.inj (hhead.symm.trans hj)
        exact successor?_eq_some_iff.mp hrest'
      · cases hrest with
        | repeated => cases hj
        | passed hnew => exact absurd hmem hnew

/-- The error after one that is passed has been seen before the walk or is passed by it. -/
theorem closed (h : Trail links seen next? chain) :
    ∀ i ∈ chain, ∀ j, Next links i j → j ∈ seen ∨ j ∈ chain := by
  induction h with
  | ended => nofun
  | repeated => nofun
  | @passed seen i rest _ hrest ih =>
    intro k hk j hnext
    rcases List.mem_cons.mp hk with rfl | hk
    · rw [successor?_eq_some_iff.mpr hnext] at hrest
      rcases hrest.head?_eq_or_mem with hhead | hmem
      · exact .inr (List.mem_cons_of_mem _ (List.mem_of_head? hhead))
      · rcases List.mem_cons.mp hmem with rfl | hmem
        · exact .inr List.mem_cons_self
        · exact .inl hmem
    · rcases ih k hk j hnext with hmem | hmem
      · rcases List.mem_cons.mp hmem with rfl | hmem
        · exact .inr List.mem_cons_self
        · exact .inl hmem
      · exact .inr (List.mem_cons_of_mem _ hmem)

variable {start : Nat}

/-- The chain from an error on begins with it. -/
theorem head?_eq (h : Trail links [] (some start) chain) : chain.head? = some start :=
  h.head?_eq_or_mem.resolve_right List.not_mem_nil

/-- Whatever the way reaches is on the chain. -/
theorem mem_of_reaches (h : Trail links [] (some start) chain) {n i : Nat}
    (hreaches : Reaches links start n i) : i ∈ chain := by
  induction hreaches with
  | start => exact List.mem_of_head? h.head?_eq
  | step _ hnext ih => exact (h.closed _ ih _ hnext).resolve_left List.not_mem_nil

end Trail

/-- The errors of a chain are reached in their order. -/
theorem reaches_of_isChain {start n : Nat} {chain : List Nat} (h : chain.IsChain (Next links))
    (hhead : ∀ i ∈ chain.head?, Reaches links start n i) {k i : Nat} (hi : chain[k]? = some i) :
    Reaches links start (n + k) i := by
  induction chain generalizing n k with
  | nil => cases hi
  | cons first rest ih =>
    have hfirst : Reaches links start n first := hhead first rfl
    rw [List.isChain_cons] at h
    cases k with
    | zero =>
      cases hi
      exact hfirst
    | succ k =>
      have hreaches := ih h.2 (fun j hj => hfirst.step (h.1 j hj)) hi
      rwa [Nat.add_right_comm] at hreaches

/-! ## Chains -/

/-- What a chain from an error on is. -/
structure IsWalk (links : List Link) (start : Nat) (chain : List Nat) : Prop where
  head : chain.head? = some start
  nodup : chain.Nodup
  next : chain.IsChain (Next links)
  /-- What comes after its last error has been passed. -/
  last : ∀ i ∈ chain.getLast?, ∀ j, Next links i j → j ∈ chain

namespace Trail

variable {start : Nat} {chain : List Nat}

theorem isWalk (h : Trail links [] (some start) chain) : IsWalk links start chain where
  head := h.head?_eq
  nodup := h.nodup
  next := h.isChain
  last i hi j hnext :=
    (h.closed i (List.mem_of_getLast? hi) j hnext).resolve_left List.not_mem_nil

/-- The first API error on the chain is the first one that the way reaches. -/
theorem findSome?_eq_some_iff (h : Trail links [] (some start) chain) {status : Value} :
    chain.findSome? (apiStatus? links) = some status ↔
      ∃ n i, Reaches links start n i ∧ HasStatus links i status ∧
        ∀ m < n, ∀ j, Reaches links start m j → ∀ status', ¬ HasStatus links j status' := by
  have hreaches {k i : Nat} (hi : chain[k]? = some i) : Reaches links start k i := by
    have hstart : ∀ i ∈ chain.head?, Reaches links start 0 i := by
      intro i hi
      cases h.head?_eq.symm.trans hi
      exact .start
    simpa using reaches_of_isChain h.isChain hstart hi
  have hget {before after : List Nat} {m : Nat} (hm : m < before.length) :
      (before ++ after)[m]? = some before[m] := by
    rw [List.getElem?_append_left hm, List.getElem?_eq_getElem hm]
  have hnone {j : Nat} : apiStatus? links j = none ↔ ∀ status', ¬ HasStatus links j status' := by
    rw [Option.eq_none_iff_forall_ne_some]
    exact forall_congr' fun status' => not_congr apiStatus?_eq_some_iff
  rw [List.findSome?_eq_some_iff]
  constructor
  · rintro ⟨before, i, after, rfl, hstatus, hbefore⟩
    refine ⟨before.length, i, hreaches (by simp), apiStatus?_eq_some_iff.mp hstatus, ?_⟩
    intro m hm j hj
    obtain rfl := hj.unique (hreaches (hget hm))
    exact hnone.mp (hbefore _ (List.getElem_mem hm))
  · rintro ⟨n, i, hi, hstatus, hfirst⟩
    obtain ⟨before, after, rfl⟩ := List.append_of_mem (h.mem_of_reaches hi)
    refine ⟨before, i, after, rfl, apiStatus?_eq_some_iff.mpr hstatus, ?_⟩
    have hlength : before.length ≤ n := by
      by_contra hlt
      have hmem : i ∈ before := by
        rw [hi.unique (hreaches (hget (Nat.lt_of_not_le hlt)))]
        exact List.getElem_mem _
      exact (List.nodup_append.mp h.nodup).2.2 i hmem i List.mem_cons_self rfl
    intro j hj
    obtain ⟨m, hm, rfl⟩ := List.getElem_of_mem hj
    exact hnone.mpr (hfirst m (Nat.lt_of_lt_of_le hm hlength) _ (hreaches (hget hm)))

end Trail

/-- The chain of a failure is the way from it as far as it does not repeat itself, and it is the same
with any greater bound.  Every error on the way is on it.  So a failure means that something does not
exist exactly if the first API error on the way has the status that says so. -/
theorem chain_spec (f : Failure) :
    (IsWalk f.links f.start f.chain ∧
      ∀ more, walk f.links (f.links.length + more) [] (some f.start) = f.chain) ∧
    (∀ n i, Reaches f.links f.start n i → i ∈ f.chain) ∧
    (f.isNotFound = true ↔ ∃ n i status, Reaches f.links f.start n i ∧ HasStatus f.links i status ∧
      status.same notFoundStatus = true ∧
      ∀ m < n, ∀ j, Reaches f.links f.start m j → ∀ status', ¬ HasStatus f.links j status') := by
  have htrail (more : Nat) : Trail f.links [] (some f.start)
      (walk f.links (f.links.length + more) [] (some f.start)) := by
    refine trail_walk List.nodup_nil nofun ?_ (Nat.le_add_right _ _)
    rintro _ ⟨⟩
    exact f.start.isLt
  have hchain : Trail f.links [] (some f.start) f.chain := htrail 0
  refine ⟨⟨hchain.isWalk, fun more => (htrail more).unique hchain⟩,
    fun n i hreaches => hchain.mem_of_reaches hreaches, ?_⟩
  have hnotFound : f.isNotFound = true ↔
      ∃ status, f.chain.findSome? (apiStatus? f.links) = some status ∧
        status.same notFoundStatus = true := by
    rw [isNotFound, isNotFoundFrom, ← chain]
    cases f.chain.findSome? (apiStatus? f.links) with
    | none => simp
    | some status => simp
  rw [hnotFound]
  simp only [hchain.findSome?_eq_some_iff]
  constructor
  · rintro ⟨status, ⟨n, i, hi, hstatus, hfirst⟩, hsame⟩
    exact ⟨n, i, status, hi, hstatus, hsame, hfirst⟩
  · rintro ⟨n, i, status, hi, hstatus, hsame, hfirst⟩
    exact ⟨status, ⟨n, i, hi, hstatus, hfirst⟩, hsame⟩

/-- An error that was raised from one that the API answered, while that one came up during the first:
the way goes round and round, and the answer is found on it. -/
theorem chain_spec_of_cycle :
    let links : List Link := [⟨.runtime "wrapped", some 1, none, true⟩,
      ⟨.api false (.int 404) "Not Found" [], none, some 0, false⟩]
    let f : Failure := ⟨links, ⟨0, Nat.zero_lt_two⟩⟩
    Reaches links 0 2 0 ∧ f.chain = [0, 1] ∧ f.isNotFound = true := by
  intro links f
  have hfirst : Next links 0 1 := .cause rfl rfl (by decide)
  have hsecond : Next links 1 0 := .context rfl rfl rfl rfl (by decide)
  have hone : Reaches links 0 1 1 := .step .start hfirst
  refine ⟨.step hone hsecond, rfl, (chain_spec f).2.2.mpr ?_⟩
  refine ⟨1, 1, .int 404, hone, ⟨false, "Not Found", [], none, some 0, false, rfl⟩, rfl, ?_⟩
  intro m hm j hj status' hstatus
  obtain rfl : m = 0 := Nat.lt_one_iff.mp hm
  cases hj
  obtain ⟨_, _, _, _, _, _, hl⟩ := hstatus
  cases hl

end MachineCloud.Failure
