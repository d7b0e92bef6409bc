import Storefront.Proofs.Records

/-! # What is and what would be

Suppose that of several tasks some are over and some are under way.  What is kept *now* is
then what would be kept had only the former been carried out (the *past*), overlaid with what
the latter have kept so far.  A task in hand holds locks, has found something under some of
them, and has kept records over what it has found; where no two tasks hold one lock, every key
is overlaid by one task at most (`Overlay`).

While a task is under way it may take locks, read, and write over what it has read, and all
this leaves the past as it is.  When it has nothing more to keep, it may become part of the
past; and so it may together with records under new keys (`Overlay.conclude`), since nobody
can have found anything there before.
-/
namespace Storefront

open Repositories

/-- What a task has in hand: the locks it holds, the keys it has found something under, and
what it has kept since. -/
structure Hand where
  held : List LockKey
  seen : List LockKey
  kept : List Record

/-- What one task has in hand fits what is kept now, and what was in the past. -/
structure Hand.Fits (now past : Repositories) (h : Hand) : Prop where
  seen_held : ∀ key ∈ h.seen, key ∈ h.held
  seen_present : ∀ key ∈ h.seen, past.record? key ≠ none
  kept_seen : ∀ w ∈ h.kept, w.key ∈ h.seen
  held_eq : ∀ key ∈ h.held, now.record? key = (past.keepAll h.kept).record? key

/-- **What is kept now is the past, overlaid with what the tasks under way have kept.** -/
structure Overlay (now past : Repositories) (hand : Nat → Hand) : Prop where
  keys : past.SameKeys now
  fits : ∀ i, (hand i).Fits now past
  /-- No two tasks hold one lock. -/
  apart : ∀ i j, i ≠ j → ∀ key ∈ (hand i).held, key ∉ (hand j).held
  free_eq : ∀ key, (∀ i, key ∉ (hand i).held) → now.record? key = past.record? key

namespace Hand

variable {now past : Repositories} {h : Hand} {key : LockKey}

/-- Nothing in hand. -/
def empty : Hand := ⟨[], [], []⟩

theorem fits_empty : empty.Fits now past :=
  ⟨fun _ h => absurd h List.not_mem_nil, fun _ h => absurd h List.not_mem_nil,
    fun _ h => absurd h List.not_mem_nil, fun _ h => absurd h List.not_mem_nil⟩

/-- With one more lock. -/
def hold (h : Hand) (key : LockKey) : Hand := { h with held := key :: h.held }

/-- With one more key that something was found under. -/
def see (h : Hand) (key : LockKey) : Hand := { h with seen := key :: h.seen }

/-- With one more record kept. -/
def keep (h : Hand) (w : Record) : Hand := { h with kept := h.kept ++ [w] }

/-- What is kept elsewhere than under a task's locks makes no difference to it. -/
theorem Fits.congr (hf : h.Fits now past) {now' : Repositories}
    (hsame : ∀ key ∈ h.held, now'.record? key = now.record? key) : h.Fits now' past :=
  ⟨hf.seen_held, hf.seen_present, hf.kept_seen, fun key hk =>
    (hsame key hk).trans (hf.held_eq key hk)⟩

theorem Fits.kept_held (hf : h.Fits now past) : ∀ w ∈ h.kept, w.key ∈ h.held := fun w hw =>
  hf.seen_held _ (hf.kept_seen w hw)

end Hand

namespace Overlay

variable {now now' past past' : Repositories} {hand : Nat → Hand} {i j : Nat} {key : LockKey}
  {w : Record}

theorem refl (r : Repositories) : Overlay r r fun _ => .empty where
  keys := SameKeys.refl r
  fits _ := Hand.fits_empty
  apart _ _ _ _ h := absurd h List.not_mem_nil
  free_eq _ _ := rfl

/-- **A task sees its own overlay** under every key whose lock nobody else holds. -/
theorem record?_eq (h : Overlay now past hand) (hfree : ∀ j ≠ i, key ∉ (hand j).held) :
    now.record? key = (past.keepAll (hand i).kept).record? key := by
  by_cases hheld : key ∈ (hand i).held
  · exact (h.fits i).held_eq key hheld
  · -- nobody holds the lock, and the task itself has kept nothing under the key
    have hne : ∀ w ∈ (hand i).kept, w.key ≠ key := by
      rintro w hw rfl
      exact hheld ((h.fits i).kept_held w hw)
    rw [record?_keepAll_of_ne past hne]
    refine h.free_eq key fun j => ?_
    by_cases hj : j = i
    · exact hj ▸ hheld
    · exact hfree j hj

/-- What a task has kept is under locks that nobody else holds. -/
theorem kept_ne (h : Overlay now past hand) (hij : i ≠ j) (hkey : key ∈ (hand j).held) :
    ∀ w ∈ (hand i).kept, w.key ≠ key := by
  rintro w hw rfl
  exact h.apart i j hij _ ((h.fits i).kept_held w hw) hkey

/-- What a task has written over was there. -/
theorem sameKeys_kept (h : Overlay now past hand) (i : Nat) :
    past.SameKeys (past.keepAll (hand i).kept) :=
  sameKeys_keepAll fun w hw => (h.fits i).seen_present _ ((h.fits i).kept_seen w hw)

/-- One task has something else in hand now. -/
theorem update {h' : Hand} (h : Overlay now past hand) (hkeys : past'.SameKeys now')
    (hthis : h'.Fits now' past') (hothers : ∀ j ≠ i, (hand j).Fits now' past')
    (hapart : ∀ j ≠ i, ∀ key ∈ h'.held, key ∉ (hand j).held)
    (hfree : ∀ key ∉ h'.held, (∀ j ≠ i, key ∉ (hand j).held) →
      now'.record? key = past'.record? key) :
    Overlay now' past' (Function.update hand i h') := by
  refine ⟨hkeys, ?_, fun j l hjl key hj hl => ?_, fun key hk => ?_⟩
  · exact (Function.forall_update_iff hand (p := fun _ d => d.Fits now' past')).mpr ⟨hthis, hothers⟩
  · by_cases hji : j = i
    · subst hji
      rw [Function.update_self] at hj
      rw [Function.update_of_ne (Ne.symm hjl)] at hl
      exact hapart l (Ne.symm hjl) key hj hl
    · rw [Function.update_of_ne hji] at hj
      by_cases hli : l = i
      · subst hli
        rw [Function.update_self] at hl
        exact hapart j hji key hl hj
      · rw [Function.update_of_ne hli] at hl
        exact h.apart j l hjl key hj hl
  · have hboth := (Function.forall_update_iff hand (p := fun _ d => key ∉ d.held)).mp hk
    exact hfree key hboth.1 hboth.2

/-- A task takes a lock that nobody else holds. -/
theorem lock (h : Overlay now past hand) (hfree : ∀ j ≠ i, key ∉ (hand j).held) :
    Overlay now past (Function.update hand i ((hand i).hold key)) := by
  have hf := h.fits i
  refine h.update h.keys ⟨?_, hf.seen_present, hf.kept_seen, ?_⟩ (fun j _ => h.fits j) ?_ ?_
  · exact fun k hk => List.mem_cons_of_mem _ (hf.seen_held k hk)
  · intro k hk
    rcases List.mem_cons.mp hk with rfl | hk
    · -- nobody else has kept anything under a lock that was free
      exact h.record?_eq hfree
    · exact hf.held_eq k hk
  · intro j hj k hk
    rcases List.mem_cons.mp hk with rfl | hk
    · exact hfree j hj
    · exact h.apart i j (Ne.symm hj) k hk
  · intro k hk hothers
    refine h.free_eq k fun j => ?_
    by_cases hj : j = i
    · exact hj ▸ fun hm => hk (List.mem_cons_of_mem _ hm)
    · exact hothers j hj

/-- A task finds something under a key whose lock it holds. -/
theorem see (h : Overlay now past hand) (hheld : key ∈ (hand i).held)
    (hsome : now.record? key ≠ none) :
    Overlay now past (Function.update hand i ((hand i).see key)) := by
  have hf := h.fits i
  refine h.update h.keys ⟨?_, ?_, fun w hw => List.mem_cons_of_mem _ (hf.kept_seen w hw),
    hf.held_eq⟩ (fun j _ => h.fits j) (fun j hj => h.apart i j (Ne.symm hj)) ?_
  · intro k hk
    rcases List.mem_cons.mp hk with rfl | hk
    · exact hheld
    · exact hf.seen_held k hk
  · intro k hk
    rcases List.mem_cons.mp hk with rfl | hk
    · exact fun hn => hsome (h.keys.record?_eq_none_iff.mpr hn)
    · exact hf.seen_present k hk
  · intro k hk hothers
    refine h.free_eq k fun j => ?_
    by_cases hj : j = i
    · exact hj ▸ hk
    · exact hothers j hj

/-- A task writes over something that it has found. -/
theorem write (h : Overlay now past hand) (hseen : w.key ∈ (hand i).seen) :
    Overlay (now.keep w) past (Function.update hand i ((hand i).keep w)) := by
  have hf := h.fits i
  have hheld := hf.seen_held _ hseen
  have hpresent : now.record? w.key ≠ none := fun hn =>
    hf.seen_present _ hseen (h.keys.record?_eq_none_iff.mp hn)
  refine h.update (h.keys.trans (sameKeys_keep hpresent)) ⟨hf.seen_held, hf.seen_present, ?_, ?_⟩
    (fun j hj => (h.fits j).congr fun k hk => ?_) (fun j hj => h.apart i j (Ne.symm hj)) ?_
  · intro v hv
    rcases List.mem_append.mp hv with hv | hv
    · exact hf.kept_seen v hv
    · rw [List.mem_singleton.mp hv]
      exact hseen
  · intro k hk
    show _ = (past.keepAll ((hand i).kept ++ [w])).record? k
    rw [keepAll_snoc, record?_keep, record?_keep, hf.held_eq k hk]
  · -- others hold none of the locks that this task holds
    refine record?_keep_of_ne now ?_
    rintro rfl
    exact h.apart i j (Ne.symm hj) _ hheld hk
  · intro k hk hothers
    have hne : k ≠ w.key := by
      rintro rfl
      exact hk hheld
    rw [record?_keep_of_ne now hne]
    refine h.free_eq k fun j => ?_
    by_cases hj : j = i
    · exact hj ▸ hk
    · exact hothers j hj

/-- What others have found is neither new nor what a task has kept. -/
theorem found_eq (h : Overlay now past hand) {new : List Record}
    (hnew : ∀ w ∈ new, now.record? w.key = none) (hj : j ≠ i) (hheld : key ∈ (hand j).held)
    (hsome : now.record? key ≠ none) :
    ((past.keepAll (hand i).kept).keepAll new).record? key = past.record? key := by
  have hne : ∀ w ∈ new, w.key ≠ key := by
    rintro w hw rfl
    exact hsome (hnew w hw)
  rw [record?_keepAll_of_ne _ hne, record?_keepAll_of_ne _ (h.kept_ne (Ne.symm hj) hheld)]

theorem seen_present (h : Overlay now past hand) (hseen : key ∈ (hand j).seen) :
    now.record? key ≠ none := fun hn =>
  (h.fits j).seen_present key hseen (h.keys.record?_eq_none_iff.mp hn)

/-- **A task becomes part of the past**, together with records under new keys, if there are
any. -/
theorem conclude (h : Overlay now past hand) {new : List Record}
    (hnew : ∀ w ∈ new, now.record? w.key = none)
    (hstores : past'.stores = ((past.keepAll (hand i).kept).keepAll new).stores)
    (horders : past'.orders = ((past.keepAll (hand i).kept).keepAll new).orders) :
    Overlay (now.keepAll new) past' (Function.update hand i .empty) := by
  have hrecord := record?_congr hstores horders
  have hkept := h.sameKeys_kept i
  have hsame : ∀ j ≠ i, ∀ k ∈ (hand j).held, now.record? k ≠ none →
      past'.record? k = past.record? k := fun j hj k hk hsome =>
    (hrecord k).trans (h.found_eq hnew hj hk hsome)
  refine h.update ?_ Hand.fits_empty (fun j hj => ?_) ?_ ?_
  · exact (sameKeys_of_eq hstores horders).trans ((hkept.symm.trans h.keys).keepAll new)
  · have hf := h.fits j
    refine ⟨hf.seen_held, fun k hk => ?_, hf.kept_seen, fun k hk => ?_⟩
    · rw [hsame j hj k (hf.seen_held k hk) (h.seen_present hk)]
      exact hf.seen_present k hk
    · by_cases hnow : now.record? k = none
      · -- there was nothing here: nobody has written, and what is new now is new in the past
        have hpast := h.keys.record?_eq_none_iff.mp hnow
        have hne : ∀ w ∈ (hand j).kept, w.key ≠ k := by
          rintro w hw rfl
          exact hf.seen_present _ (hf.kept_seen w hw) hpast
        rw [record?_keepAll_of_ne past' hne, hrecord]
        refine record?_keepAll_congr ?_ new
        rw [record?_keepAll_of_ne past (h.kept_ne (Ne.symm hj) hk), hnow, hpast]
      · have hne : ∀ w ∈ new, w.key ≠ k := by
          rintro w hw rfl
          exact hnow (hnew w hw)
        rw [record?_keepAll_of_ne now hne, hf.held_eq k hk]
        exact record?_keepAll_congr (hsame j hj k hk hnow).symm _
  · exact fun _ _ _ hk => absurd hk List.not_mem_nil
  · intro k _ hfree
    rw [hrecord]
    exact record?_keepAll_congr (h.record?_eq hfree) new

end Overlay

end Storefront
