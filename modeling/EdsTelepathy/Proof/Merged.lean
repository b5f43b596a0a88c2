import EdsTelepathy.Lib.Gather
import EdsTelepathy.Proof.Names

/-!
# Contacts with one name become one contact

A contact that was created offline is known under the name the user typed until the server
has accepted it; then it takes the normalised name, or, if that name has a contact already,
is merged into it. The argument follows every contact of the start by the name it has come
to be known under. All contacts under one name are represented by the one contact that the
name index has there, and what that contact holds is what they brought together. A request
to add moves one contact to its normalised name; nothing else that happens in a
synchronisation moves any.
-/

namespace EdsTelepathy

namespace Book

/-- The name a contact of the start is to be known under in the end. -/
def finalName (norm : String → String) (b₀ : Book) (r : Nat) : Option String :=
  if b₀.AwaitsAdd r then (b₀.contacts r).name.map norm else (b₀.contacts r).name

/--
**The contacts of `b₀` are merged without loss**: there is one contact for every final name,
it is in both indexes, its master UIDs are those of all the contacts with that final name, and
every name that one of them had before and that is not the final one is a variant.
-/
structure MergedInto (norm : String → String) (b₀ b : Book) : Prop where
  one : ∀ r₀, b₀.Live r₀ → ∃! r, b.Live r ∧ (b.contacts r).name = finalName norm b₀ r₀
  only : ∀ r, b.Live r → ∃ r₀, b₀.Live r₀ ∧ finalName norm b₀ r₀ = (b.contacts r).name
  indexed : ∀ r, b.Live r → b.nameToContact.lookup (b.contacts r).name = some r
  masterUids : ∀ r, b.Live r → ∀ m, m ∈ (b.contacts r).masterUids ↔
    ∃ r₀, b₀.Live r₀ ∧ finalName norm b₀ r₀ = (b.contacts r).name ∧ m ∈ (b₀.contacts r₀).masterUids
  variants : ∀ r, b.Live r → ∀ r₀ n, b₀.Live r₀ → finalName norm b₀ r₀ = (b.contacts r).name →
    (b₀.contacts r₀).name = some n → (b.contacts r).name ≠ some n → n ∈ (b.contacts r).variants

/-! ## The invariant -/

section

variable (b₀ : Book) (cur : Nat → Option String)

/-- The master UIDs that the contacts now known under a name had at the start. -/
def masterUidsUnder : Option String → Set (Option String) :=
  gathered {r | b₀.Live r} cur fun r => {m | m ∈ (b₀.contacts r).masterUids}

/-- The variants that the contacts now known under a name had at the start. -/
def variantsUnder : Option String → Set String :=
  gathered {r | b₀.Live r} cur fun r => {v | v ∈ (b₀.contacts r).variants}

/-- The names that the contacts now known under a name had at the start. -/
def namesUnder : Option String → Set String :=
  gathered {r | b₀.Live r} cur fun r => {v | (b₀.contacts r).name = some v}

end

/--
The contacts of `b₀` are on their way: `cur` is the name each of them is known under now.
A contact that waits has its own name still, and is alone under it unless that name is a
normalised one.
-/
structure Merging (norm : String → String) (b₀ : Book) (cur : Nat → Option String) (b : Book) :
    Prop where
  names : b.NamesAgree
  waiting : ∀ k r, b.contactsToAdd.lookup k = some r →
    (b.contacts r).uid = k ∧ b.Live r ∧ b₀.AwaitsAdd r ∧ cur r = (b₀.contacts r).name
  settled : ∀ r, b₀.Live r → ¬ b.AwaitsAdd r → cur r = finalName norm b₀ r
  owned : ∀ r, b₀.Live r → ∃ x, b.nameToContact.lookup (cur r) = some x
  known : ∀ r, b.Live r → b₀.Live r ∧ (b.contacts r).name = cur r
  masterUids : ∀ r, b.Live r → ∀ m,
    m ∈ (b.contacts r).masterUids ↔ m ∈ masterUidsUnder b₀ cur (cur r)
  variants : ∀ r, b.Live r → ∀ v, v ∈ (b.contacts r).variants ↔
    v ∈ variantsUnder b₀ cur (cur r) ∨ (v ∈ namesUnder b₀ cur (cur r) ∧ cur r ≠ some v)
  alone : ∀ r x, b.AwaitsAdd r → b₀.Live x → x ≠ r → cur x = cur r → (cur r).map norm = cur r

theorem merging_start {norm : String → String} {b₀ : Book} (h : b₀.Ready) :
    Merging norm b₀ (fun r => (b₀.contacts r).name) b₀ := by
  have halone : ∀ {r}, b₀.Live r → ∀ x ∈ {r | b₀.Live r},
      (b₀.contacts x).name = (b₀.contacts r).name → x = r := fun hr x hx he =>
    h.names.eq_of_name hr hx he
  have hgathered : ∀ {α : Type} (load : Nat → Set α) {r}, b₀.Live r →
      gathered {r | b₀.Live r} (fun r => (b₀.contacts r).name) load (b₀.contacts r).name = load r :=
    fun load r hr => gathered_alone (i := r) hr (halone hr) load
  refine ⟨h.names, fun k r hk => ?_, fun r _ hr => ?_, fun r hr => ⟨r, h.names.nameOf hr⟩,
    fun r hr => ⟨hr, rfl⟩, fun r hr m => ?_, fun r hr v => ?_, fun r x hr hx hne he => ?_⟩
  · obtain ⟨hu, hl⟩ := h.waiting k r hk
    exact ⟨hu, hl, Table.mem_values.mpr ⟨k, hk⟩, rfl⟩
  · unfold finalName
    rw [if_neg hr]
  · unfold masterUidsUnder
    rw [hgathered _ hr]
    rfl
  · unfold variantsUnder namesUnder
    rw [hgathered _ hr, hgathered _ hr]
    refine ⟨.inl, ?_⟩
    rintro (hv | ⟨hv, hne⟩)
    · exact hv
    · exact absurd hv hne
  · obtain ⟨k, hk⟩ := Table.mem_values.mp hr
    exact absurd (halone (h.waiting k r hk).2 x hx he) hne

/-- In the end everybody has the final name. -/
theorem Merging.mergedInto {norm : String → String} {b₀ b : Book} {cur : Nat → Option String}
    (h : Merging norm b₀ cur b) (hdone : b.contactsToAdd = ∅) : MergedInto norm b₀ b := by
  have hfinal : ∀ {r}, b₀.Live r → cur r = finalName norm b₀ r := fun hr => by
    refine h.settled _ hr fun hw => ?_
    unfold AwaitsAdd at hw
    rw [hdone] at hw
    cases hw
  have hname : ∀ {r}, b.Live r → (b.contacts r).name = finalName norm b₀ r := fun hr =>
    (h.known _ hr).2.trans (hfinal (h.known _ hr).1)
  refine ⟨fun r₀ hr₀ => ?_, fun r hr => ⟨r, (h.known r hr).1, (hname hr).symm⟩,
    fun r hr => h.names.nameOf hr, fun r hr m => ?_, fun r hr r₀ n hr₀ he hn hne => ?_⟩
  · obtain ⟨x, hx⟩ := h.owned r₀ hr₀
    obtain ⟨hxname, hxlive⟩ := h.names.name _ x hx
    rw [hfinal hr₀] at hxname
    exact ⟨x, ⟨hxlive, hxname⟩, fun y hy => h.names.eq_of_name hxlive hy.1 (hy.2.trans hxname.symm)⟩
  · rw [h.masterUids r hr m, ← (h.known r hr).2]
    constructor
    · rintro ⟨r₀, hr₀, he, hm⟩
      exact ⟨r₀, hr₀, (hfinal hr₀).symm.trans he, hm⟩
    · rintro ⟨r₀, hr₀, he, hm⟩
      exact ⟨r₀, hr₀, (hfinal hr₀).trans he, hm⟩
  · refine (h.variants r hr n).mpr (.inr ⟨⟨r₀, hr₀, ?_, hn⟩, ?_⟩)
    · exact (hfinal hr₀).trans (he.trans (h.known r hr).2)
    · exact fun hc => hne ((h.known r hr).2.trans hc)

/-! ## What leaves the names alone -/

/-- Nobody moves; who stops waiting has the final name already. -/
theorem Merging.of_sameNames {norm : String → String} {b₀ b b' : Book} {cur : Nat → Option String}
    (h : Merging norm b₀ cur b) (hs : SameNames b b')
    (hsub : ∀ k r, b'.contactsToAdd.lookup k = some r → b.contactsToAdd.lookup k = some r)
    (hend : ∀ r, b₀.Live r → b.AwaitsAdd r → ¬ b'.AwaitsAdd r → cur r = finalName norm b₀ r) :
    Merging norm b₀ cur b' := by
  have hwait : ∀ {r}, b'.AwaitsAdd r → b.AwaitsAdd r := by
    intro r hr
    obtain ⟨k, hk⟩ := Table.mem_values.mp hr
    exact Table.mem_values.mpr ⟨k, hsub k r hk⟩
  refine ⟨⟨fun k r hr => ?_, fun n r hr => ?_⟩, fun k r hk => ?_, fun r hr hw => ?_, fun r hr => ?_,
    fun r hr => ?_, fun r hr m => ?_, fun r hr v => ?_,
    fun r x hr => h.alone r x (hwait hr)⟩
  · rw [(hs.contacts r).uid, (hs.contacts r).name, hs.name]
    exact h.names.uid k r ((hs.uid k).symm.trans hr)
  · rw [(hs.contacts r).name, hs.live]
    exact h.names.name n r ((hs.name n).symm.trans hr)
  · rw [(hs.contacts r).uid, hs.live]
    exact h.waiting k r (hsub k r hk)
  · by_cases hold : b.AwaitsAdd r
    · exact hend r hr hold hw
    · exact h.settled r hr hold
  · rw [hs.name]
    exact h.owned r hr
  · rw [(hs.contacts r).name]
    exact h.known r ((hs.live r).mp hr)
  · rw [(hs.contacts r).masterUids]
    exact h.masterUids r ((hs.live r).mp hr) m
  · rw [(hs.contacts r).variants]
    exact h.variants r ((hs.live r).mp hr) v

/-! ## A contact moves to its normalised name -/

/-- A contact that waits under a name that is not normalised has brought all there is under it. -/
theorem Merging.alone_under {norm : String → String} {b₀ b : Book} {cur : Nat → Option String}
    (h : Merging norm b₀ cur b) {r : Nat} (hr : b.AwaitsAdd r) (hne : (cur r).map norm ≠ cur r) :
    ∀ x ∈ {r | b₀.Live r}, cur x = cur r → x = r := by
  intro x hx he
  by_contra hxr
  exact hne (h.alone r x hr hx hxr he)

/-- What the contact has is what it had at the start. -/
theorem Merging.alone_load {norm : String → String} {b₀ b : Book} {cur : Nat → Option String}
    (h : Merging norm b₀ cur b) {r : Nat} (hr : b.AwaitsAdd r) (hne : (cur r).map norm ≠ cur r) :
    (∀ m, m ∈ (b.contacts r).masterUids ↔ m ∈ (b₀.contacts r).masterUids)
      ∧ ∀ v, v ∈ (b.contacts r).variants ↔ v ∈ (b₀.contacts r).variants := by
  obtain ⟨k, hk⟩ := Table.mem_values.mp hr
  obtain ⟨-, hlive, -, hcur⟩ := h.waiting k r hk
  have hin : r ∈ {r | b₀.Live r} := (h.known r hlive).1
  have halone := h.alone_under hr hne
  refine ⟨fun m => ?_, fun v => ?_⟩
  · rw [h.masterUids r hlive m]
    unfold masterUidsUnder
    rw [gathered_alone hin halone]
    rfl
  · rw [h.variants r hlive v]
    unfold variantsUnder namesUnder
    rw [gathered_alone hin halone, gathered_alone hin halone]
    refine ⟨?_, .inl⟩
    rintro (hv | ⟨hv, hn⟩)
    · exact hv
    · exact absurd (hcur.trans hv) hn

/-- What was known under the new name before: what its owner had, or nothing. -/
theorem Merging.under_owner {norm : String → String} {b₀ b b' : Book} {cur : Nat → Option String}
    (h : Merging norm b₀ cur b) {r own : Nat} {c : Contact} (hr : b.Live r)
    (hm : Moved b r c own b') :
    (own ≠ r ∧ cur own = c.name)
      ∨ (own = r ∧ ∀ {α : Type} (load : Nat → Set α) (a : α),
        a ∉ gathered {r | b₀.Live r} cur load c.name) := by
  rcases hm.owner with ⟨ho, hfree⟩ | ⟨ho, hlook⟩
  · refine .inr ⟨ho, fun load a => ?_⟩
    rintro ⟨x, hx, he, -⟩
    obtain ⟨y, hy⟩ := h.owned x hx
    rw [he, hfree] at hy
    cases hy
  · refine .inl ⟨ho, ?_⟩
    rw [← (h.known own (hm.owner_live h.names hr)).2]
    exact (h.names.name _ _ hlook).1

/-- **A waiting contact is accepted under another name.** -/
theorem Merging.moved {norm : String → String} {b₀ b b' : Book} {cur : Nat → Option String}
    (h : Merging norm b₀ cur b) {r own : Nat} {c : Contact} (hr : b.AwaitsAdd r)
    (hname : c.name = (b.contacts r).name.map norm) (hne : c.name ≠ (b.contacts r).name)
    (hown : ∀ x, b.nameToContact.lookup c.name = some x → b.AwaitsAdd x → c.name.map norm = c.name)
    (hm : Moved b r c own b') : Merging norm b₀ (Function.update cur r c.name) b' := by
  obtain ⟨k₀, hk₀⟩ := Table.mem_values.mp hr
  obtain ⟨huid, hlive, hwas, hcur⟩ := h.waiting k₀ r hk₀
  have hin : r ∈ {r | b₀.Live r} := (h.known r hlive).1
  have hnow : (b.contacts r).name = cur r := (h.known r hlive).2
  have hmoves : (cur r).map norm ≠ cur r := by
    rw [← hnow, ← hname]
    exact hne
  obtain ⟨hloadM, hloadV⟩ := h.alone_load hr hmoves
  have hcurOf : ∀ {x}, x ≠ r → Function.update cur r c.name x = cur x := fun hx =>
    Function.update_of_ne hx ..
  have hcurSelf : Function.update cur r c.name r = c.name := Function.update_self ..
  have hname' : ∀ {x}, b'.Live x → (b'.contacts x).name = Function.update cur r c.name x := by
    intro x hx
    rw [hm.name]
    split
    · rename_i he
      rw [he, hcurSelf]
    · rename_i hxr
      rw [hcurOf hxr]
      exact (h.known x ((hm.live_iff hlive x).mp hx).1).2
  have hownName : Function.update cur r c.name own = c.name :=
    (hname' (hm.owner_live' h.names hlive)).symm.trans (hm.owner_name h.names)
  -- a live contact that is not the owner has neither the old nor the new name
  have helse : ∀ {x}, b'.Live x → x ≠ own → x ≠ r ∧ cur x ≠ cur r ∧ cur x ≠ c.name := by
    intro x hx ho
    have hap := hm.apart h.names hlive hx ho
    rw [(h.known x ((hm.live_iff hlive x).mp hx).1).2, hnow] at hap
    exact hap
  -- whoever waits afterwards is another contact that waited before
  have hwaits : ∀ {k x}, b'.contactsToAdd.lookup k = some x →
      b.contactsToAdd.lookup k = some x ∧ x ≠ r := by
    intro k x hk
    rw [hm.toAdd] at hk
    obtain ⟨hkr, hold⟩ := Table.lookup_erase_eq_some.mp hk
    refine ⟨hold, ?_⟩
    rintro rfl
    exact hkr (h.waiting k x hold).1.symm
  refine ⟨hm.namesAgree h.names hlive, fun k x hk => ?_, fun x hx hw => ?_, fun x hx => ?_,
    fun x hx => ⟨(h.known x ((hm.live_iff hlive x).mp hx).1).1, hname' hx⟩, fun x hx m => ?_,
    fun x hx v => ?_, fun x y hx hy hyx he => ?_⟩
  · obtain ⟨hk, hxr⟩ := hwaits hk
    obtain ⟨hu, hl, hw, hc⟩ := h.waiting k x hk
    exact ⟨(hm.uid x).trans hu, (hm.live_iff hlive x).mpr ⟨hl, fun he => absurd he hxr⟩, hw,
      (hcurOf hxr).trans hc⟩
  · -- the contact itself waits no longer, and has its final name
    by_cases hxr : x = r
    · subst hxr
      rw [hcurSelf, hname]
      unfold finalName
      rw [if_pos hwas, hnow, hcur]
    · rw [hcurOf hxr]
      refine h.settled x hx fun hw' => hw ?_
      obtain ⟨k, hk⟩ := Table.mem_values.mp hw'
      obtain ⟨hu, hl, -, -⟩ := h.waiting k x hk
      refine Table.mem_values.mpr ⟨k, ?_⟩
      rw [hm.toAdd]
      refine Table.lookup_erase_eq_some.mpr ⟨fun hc => hxr (eq_of_uid hlive hl ?_), hk⟩
      exact hu.trans hc
  · by_cases hxr : x = r
    · subst hxr
      rw [hcurSelf, hm.nameTable, if_pos rfl]
      exact ⟨own, rfl⟩
    · rw [hcurOf hxr, hm.nameTable, hnow, if_neg fun he => hxr (h.alone_under hr hmoves x hx he)]
      split
      · exact ⟨own, rfl⟩
      · exact h.owned x hx
  · unfold masterUidsUnder
    by_cases ho : x = own
    · rw [ho, hm.masterUids, hloadM, hownName, gathered_move_self hin]
      refine or_congr ?_ Iff.rfl
      rcases h.under_owner hlive hm with ⟨hor, hc⟩ | ⟨hor, hnone⟩
      · rw [← hc, and_iff_right hor]
        exact h.masterUids own (hm.owner_live h.names hlive) m
      · exact ⟨fun hc => absurd hor hc.1, fun hg => absurd hg (hnone _ _)⟩
    · obtain ⟨hxr, hold, hnew⟩ := helse hx ho
      rw [(hm.others x hxr ho).masterUids, hcurOf hxr, gathered_move_of_ne hold hnew]
      exact h.masterUids x ((hm.live_iff hlive x).mp hx).1 m
  · unfold variantsUnder namesUnder
    by_cases ho : x = own
    · rw [ho, hm.variants, hloadV, hownName, gathered_move_self hin, gathered_move_self hin]
      -- the name the contact had is a variant now
      have hold : (b.contacts r).name = some v
          ↔ v ∈ {v | (b₀.contacts r).name = some v} ∧ c.name ≠ some v := by
        rw [hnow, hcur]
        refine ⟨fun he => ⟨he, fun hc => hne ?_⟩, fun he => he.1⟩
        rw [hc, hnow, hcur, he]
      have hrest : (own ≠ r ∧ v ∈ (b.contacts own).variants)
          ↔ v ∈ gathered {r | b₀.Live r} cur (fun r => {v | v ∈ (b₀.contacts r).variants}) c.name
            ∨ v ∈ gathered {r | b₀.Live r} cur (fun r => {v | (b₀.contacts r).name = some v}) c.name
              ∧ c.name ≠ some v := by
        rcases h.under_owner hlive hm with ⟨hor, hc⟩ | ⟨hor, hnone⟩
        · rw [← hc, and_iff_right hor]
          exact h.variants own (hm.owner_live h.names hlive) v
        · refine ⟨fun hc => absurd hor hc.1, ?_⟩
          rintro (hg | ⟨hg, -⟩)
          · exact absurd hg (hnone _ _)
          · exact absurd hg (hnone _ _)
      rw [hrest, hold, Set.mem_union, Set.mem_union, or_and_right]
      exact or_or_or_comm
    · obtain ⟨hxr, hold, hnew⟩ := helse hx ho
      rw [(hm.others x hxr ho).variants, hcurOf hxr, gathered_move_of_ne hold hnew,
        gathered_move_of_ne hold hnew]
      exact h.variants x ((hm.live_iff hlive x).mp hx).1 v
  · obtain ⟨k, hk⟩ := Table.mem_values.mp hx
    obtain ⟨hk, hxr⟩ := hwaits hk
    have hl := (h.waiting k x hk).2.1
    have hwx : b.AwaitsAdd x := Table.mem_values.mpr ⟨k, hk⟩
    rw [hcurOf hxr] at he ⊢
    by_cases hyr : y = r
    · -- the contact has come to the name of one that waits
      subst hyr
      rw [hcurSelf] at he
      have hlook := h.names.nameOf hl
      rw [(h.known x hl).2, ← he] at hlook
      rw [← he]
      exact hown x hlook hwx
    · rw [hcurOf hyr] at he
      exact h.alone x y hwx hy hyx he

end Book

/-! ## Every edit -/

/--
What must be true of an edit for the merging to go on: a contact that was added has the
normalised name, which is normal where it belongs to a contact that waits itself, and a
contact that was not added has the name it had.
-/
def Edit.MergesWell (norm : String → String) (b : Book) : Edit → Prop
  | .addDone r c =>
    b.AwaitsAdd r ∧ Contact.Renamed (b.contacts r) c ∧ c.name = (b.contacts r).name.map norm
      ∧ ∀ x, b.nameToContact.lookup c.name = some x → b.AwaitsAdd x → c.name.map norm = c.name
  | .addFailed r c => Contact.Renamed (b.contacts r) c ∧ c.name = (b.contacts r).name
  | e => e.Peaceful b

namespace Book

/-- A renaming that gives the name the contact has changes nothing. -/
theorem sameNames_renamed {b : Book} {r : Nat} {c : Contact}
    (hc : Contact.Renamed (b.contacts r) c) (hname : c.name = (b.contacts r).name) :
    SameNames b (b.modify r fun _ => c) := by
  refine sameNames_modify ⟨hc.uid, hname, hc.masterUids, fun v => ?_⟩
  refine (hc.variants v).trans ⟨?_, .inl⟩
  rintro (h | ⟨h, hne⟩)
  · exact h
  · exact absurd (hname.trans h) hne

/-- **The step lemma for one edit.** -/
theorem merging_apply {norm : String → String} {b₀ b : Book} {e : Edit}
    (h : ∃ cur, Merging norm b₀ cur b) (he : e.MergesWell norm b) :
    ∃ cur, Merging norm b₀ cur (b.apply e) := by
  obtain ⟨cur, h⟩ := h
  have hpeaceful : e.Peaceful b → (∀ r c, e ≠ .addDone r c ∧ e ≠ .addFailed r c) →
      Merging norm b₀ cur (b.apply e) := by
    intro hp hadd
    have htable := toAdd_peaceful hp hadd
    refine h.of_sameNames (sameNames_apply h.names hp hadd) (fun k r hk => ?_) fun r _ hw hn => ?_
    · rw [htable] at hk
      exact hk
    · unfold AwaitsAdd at hn
      rw [htable] at hn
      exact absurd hw hn
  cases e with
  | addDone r c =>
    obtain ⟨hw, hc, hname, hown⟩ := he
    obtain ⟨k₀, hk₀⟩ := Table.mem_values.mp hw
    obtain ⟨-, hlive, hwas, hcur⟩ := h.waiting k₀ r hk₀
    -- under the old name nothing moves, and the contact waits no longer
    by_cases heq : c.name = (b.contacts r).name
    · obtain ⟨hsame, htable⟩ := sameNames_addDone hc heq
      refine ⟨cur, h.of_sameNames hsame (fun k x hk => ?_) fun x _ hx hnot => ?_⟩
      · have hk' : (b.addDone r c).contactsToAdd.lookup k = some x := hk
        rw [htable] at hk'
        exact (Table.lookup_erase_eq_some.mp hk').2
      · -- the one that waits no longer is the contact that was added
        obtain ⟨k, hk⟩ := Table.mem_values.mp hx
        obtain ⟨hu, hl, -, -⟩ := h.waiting k x hk
        have hxr : x = r := by
          by_contra hne
          refine hnot (Table.mem_values.mpr ⟨k, ?_⟩)
          show (b.addDone r c).contactsToAdd.lookup k = some x
          rw [htable]
          exact Table.lookup_erase_eq_some.mpr
            ⟨fun hc => hne (eq_of_uid hlive hl (hu.trans hc)), hk⟩
        subst hxr
        unfold finalName
        rw [if_pos hwas, ← hcur, ← (h.known x hlive).2, ← hname]
        exact heq.symm
    · -- under another name it is entered there, or merged into who is there
      obtain ⟨own, hm⟩ := moved_addDone h.names hlive hc heq
      exact ⟨_, h.moved hw hname heq hown hm⟩
  | addFailed r c =>
    obtain ⟨hc, hname⟩ := he
    exact ⟨cur, h.of_sameNames (sameNames_renamed hc hname) (fun k x hk => hk)
      fun x _ hw hn => absurd hw hn⟩
  | _ => exact ⟨cur, hpeaceful he fun _ _ => ⟨nofun, nofun⟩⟩

end Book

/-! ## Answers of the server -/

/-- No answer calls a name invalid, and `InspectHandles` answers with the normalised name. -/
def Truthful (norm : String → String) (name : Option String) (replies : List Reply) : Prop :=
  (∀ x ∈ replies, x.ok = false → x.invalidHandle = false)
    ∧ ∀ x ∈ replies[1]?, x.ok = true → x.name = name.map norm

instance (norm : String → String) (name : Option String) (replies : List Reply) :
    Decidable (Truthful norm name replies) := by
  unfold Truthful; infer_instance

/-- No answer to come calls a name invalid. -/
def Wire.NeverInvalid (w : Wire) : Prop := ∀ x ∈ w.replies, x.ok = false → x.invalidHandle = false

theorem Wire.NeverInvalid.ask {w : Wire} (h : w.NeverInvalid) (q : Request) :
    ((w.ask q).1.ok = false → (w.ask q).1.invalidHandle = false) ∧ (w.ask q).2.NeverInvalid := by
  obtain ⟨replies, sent⟩ := w
  cases replies with
  | nil => exact ⟨fun _ => rfl, h⟩
  | cons x xs =>
    exact ⟨h x List.mem_cons_self, fun y hy => h y (List.mem_cons_of_mem x hy)⟩

theorem Contact.updateName_normalised (c : Contact) (norm : String → String) :
    (c.updateName (c.name.map norm)).name = c.name.map norm := by
  cases hc : c.name with
  | none => exact hc
  | some n => exact Contact.updateName_some c (norm n)

namespace Cl

theorem addContactLoop_valid (channels : ListId → Bool) (c : Contact) (ls : List ListId)
    {connected : Bool} {w : Wire} (h : w.NeverInvalid) :
    (addContactLoop channels c ls connected w).1 ≠ .failure true := by
  induction ls generalizing connected w with
  | nil => exact nofun
  | cons l ls ih =>
    unfold addContactLoop
    obtain ⟨h1, h2⟩ := h.ask (.getGroupFlags l)
    obtain ⟨h3, h4⟩ := h2.ask (.addMembers l [c.handle])
    dsimp only
    split
    · split
      · split
        · split
          · exact ih h4
          · rename_i hfail
            rw [h3 (Bool.eq_false_of_not_eq_true hfail)]
            exact nofun
        · exact ih h2
      · rename_i hfail
        rw [h1 (Bool.eq_false_of_not_eq_true hfail)]
        exact nofun
    · exact ih h

/-- Where the answers are truthful, a contact that was added has the normalised name. -/
theorem runAddContact_truthful {norm : String → String} (cl : Cl) {c : Contact}
    {replies : List Reply} (h : Truthful norm c.name replies) :
    (cl.runAddContact c { replies := replies }).1 ≠ .failure true
      ∧ ((cl.runAddContact c { replies := replies }).1 = .success →
        (cl.runAddContact c { replies := replies }).2.1.name = c.name.map norm) := by
  have hw : Wire.NeverInvalid { replies := replies } := h.1
  obtain ⟨h1, h2⟩ := hw.ask (.requestHandles c.name)
  unfold runAddContact
  dsimp only
  split
  · split
    · split
      · obtain ⟨h3, h4⟩ := h2.ask
          (.inspectHandles (({ replies := replies } : Wire).ask (.requestHandles c.name)).1.handle)
        split
        · rename_i hok
          refine ⟨addContactLoop_valid _ _ _ h4, fun _ => ?_⟩
          have hname := h.2 (replies.tail.headD Reply.lost) (by
            cases replies with
            | nil => cases hok
            | cons x xs =>
              cases xs with
              | nil => cases hok
              | cons y ys => rfl) hok
          show (Contact.updateName { c with handle := _ } (replies.tail.headD Reply.lost).name).name = _
          rw [hname]
          exact Contact.updateName_normalised { c with handle := _ } norm
        · rename_i hfail
          rw [h3 (Bool.eq_false_of_not_eq_true hfail)]
          exact ⟨nofun, nofun⟩
      · exact ⟨nofun, nofun⟩
    · rename_i hfail
      rw [h1 (Bool.eq_false_of_not_eq_true hfail)]
      exact ⟨nofun, nofun⟩
  · exact ⟨nofun, nofun⟩

end Cl

namespace Backend

/-- The contact whose request the event makes: phase 3 is at its second loop. -/
def adding (b : Backend) : Event → Option Nat
  | .phase3Next _ =>
    match b.phase3 with
    | { stage := .add, todo := r :: _, .. } :: _ => some r
    | _ => none
  | _ => none

/-- The event belongs to a synchronisation, and phase 3 adds only contacts that still wait. -/
def Syncing (b : Backend) (i : Input) : Prop :=
  EditsMeet Edit.Peaceful b i ∧ ∀ r ∈ b.adding i.event, b.book.AwaitsAdd r

/-- The connection manager normalises names by `norm` and finds none invalid. -/
def Normalising (norm : String → String) (b : Backend) (i : Input) : Prop :=
  ∀ r ∈ b.adding i.event, (b.book.contacts r).flags.has contactInvalid = false
    ∧ Truthful norm (b.book.contacts r).name i.env.replies

/--
A request to add that fails has not renamed the contact before, and a contact that waits
under a name that is normal for another one will keep it.
-/
def AddsWell (norm : String → String) (b : Backend) (i : Input) : Prop :=
  ∀ r ∈ b.adding i.event,
    (((b.load i.env).runAddContact (b.book.contacts r)).1 = true
      ∨ ((b.load i.env).runAddContact (b.book.contacts r)).2.1.name = (b.book.contacts r).name)
    ∧ ∀ x ∈ b.book.nameToContact.lookup ((b.book.contacts r).name.map norm), b.book.AwaitsAdd x →
      ((b.book.contacts r).name.map norm).map norm = (b.book.contacts r).name.map norm

instance (b : Backend) : DecidablePred (Syncing b) := fun i => by
  unfold Syncing; infer_instance

instance (norm : String → String) (b : Backend) : DecidablePred (Normalising norm b) := fun i => by
  unfold Normalising; infer_instance

instance (norm : String → String) (b : Backend) : DecidablePred (AddsWell norm b) := fun i => by
  unfold AddsWell; infer_instance

/-- Under a normalisation that is normal itself, only the failing requests matter. -/
theorem addsWell_of_idempotent {norm : String → String} (hnorm : ∀ n, norm (norm n) = norm n)
    {b : Backend} {i : Input} (h : ∀ r ∈ b.adding i.event,
      ((b.load i.env).runAddContact (b.book.contacts r)).1 = true
        ∨ ((b.load i.env).runAddContact (b.book.contacts r)).2.1.name = (b.book.contacts r).name) :
    AddsWell norm b i := by
  refine fun r hr => ⟨h r hr, fun _ _ _ => ?_⟩
  rw [Option.map_map]
  exact congrFun (congrArg Option.map (funext hnorm)) _

/-! ## Every event -/

theorem phase3Edits_add (b : Backend) {p : Phase3} {r : Nat} {todo : List Nat}
    (hs : p.stage = .add) (ht : p.todo = r :: todo) :
    b.phase3Edits p = if (b.runAddContact (b.book.contacts r)).1
      then [.addDone r (b.runAddContact (b.book.contacts r)).2.1]
      else [.addFailed r (b.runAddContact (b.book.contacts r)).2.1] := by
  obtain ⟨stage, todo', inDb⟩ := p
  subst hs ht
  unfold phase3Edits
  dsimp only
  rcases b.runAddContact (b.book.contacts r) with ⟨_ | _, c, w⟩
  · rfl
  · rfl

theorem adding_eq_some {b : Backend} {e : Event} {r : Nat} (h : b.adding e = some r) :
    ∃ order p rest todo, e = .phase3Next order ∧ b.phase3 = p :: rest ∧ p.stage = .add
      ∧ p.todo = r :: todo := by
  unfold adding at h
  split at h
  · rename_i order
    split at h
    · rename_i todo inDb rest hp
      cases h
      exact ⟨order, _, rest, todo, rfl, hp, rfl, rfl⟩
    · cases h
  · cases h

/-- Only an event that adds a contact makes the edits of an addition. -/
theorem adding_of_mem {b : Backend} {e : Event} {ed : Edit} {r : Nat} {c : Contact}
    (hed : ed ∈ b.edits e) (h : ed = .addDone r c ∨ ed = .addFailed r c) : b.adding e = some r := by
  have hs : Edit.Staged ed := by rcases h with rfl | rfl <;> trivial
  rcases mem_edits hed hs with ⟨-, c', -, he⟩ | ⟨_, _, _, _, _, -, he⟩ | ⟨order, p, rest, he, hp, hin⟩
  · subst he; rcases h with h | h <;> cases h
  · subst he; rcases h with h | h <;> cases h
  · obtain ⟨r', todo, ht, ⟨-, he'⟩ | ⟨hstage, c', he'⟩ | ⟨-, he'⟩⟩ := mem_phase3Edits hin
    · subst he'; rcases h with h | h <;> cases h
    · have hr : r' = r := by
        rcases he' with rfl | rfl <;> rcases h with h | h <;> cases h <;> rfl
      obtain ⟨stage, todo', inDb⟩ := p
      dsimp only at hstage ht
      subst hstage ht hr he
      unfold adding
      dsimp only
      rw [hp]
    · subst he'; rcases h with h | h <;> cases h

theorem runAddContact_truthful {norm : String → String} {b : Backend} {c : Contact}
    {replies : List Reply} (hw : b.wire = { replies := replies })
    (hvalid : c.flags.has contactInvalid = false) (h : Truthful norm c.name replies)
    (hok : (b.runAddContact c).1 = true) : (b.runAddContact c).2.1.name = c.name.map norm := by
  have hcl := Cl.runAddContact_truthful b.tpcl h
  unfold runAddContact at hok ⊢
  rw [hvalid, hw] at hok ⊢
  generalize b.tpcl.runAddContact c { replies := replies } = p at hcl hok
  obtain ⟨_ | ⟨_ | _⟩, c', w⟩ := p
  · exact hcl.2 rfl
  · cases hok
  · exact absurd rfl hcl.1

/-- The answers and the state decide what the edits of an event are. -/
theorem editsMeet_mergesWell {norm : String → String} {b : Backend} {i : Input}
    (hs : Syncing b i) (hn : Normalising norm b i) (ha : AddsWell norm b i) :
    EditsMeet (Edit.MergesWell norm) b i := by
  cases hadd : b.adding i.event with
  -- only phase 3 adds a contact, and one at a time
  | none =>
    have hnone : ∀ ed ∈ (b.load i.env).edits i.event, ∀ r c, ed ≠ .addDone r c ∧ ed ≠ .addFailed r c := by
      intro ed hed r c
      have hno : ∀ {r}, (b.load i.env).adding i.event ≠ some r := fun h =>
        absurd (h.symm.trans hadd) nofun
      exact ⟨fun he => hno (adding_of_mem (c := c) hed (.inl he)),
        fun he => hno (adding_of_mem (c := c) hed (.inr he))⟩
    refine (hs.1.and (allAlong_of_forall (P := fun _ ed => ∀ r c, ed ≠ .addDone r c ∧ ed ≠ .addFailed r c)
      (fun ed hed _ => hnone ed hed) _)).mono fun book ed hp => ?_
    cases ed with
    | addDone r c => exact absurd rfl (hp.2 r c).1
    | addFailed r c => exact absurd rfl (hp.2 r c).2
    | _ => exact hp.1
  | some r =>
    obtain ⟨order, p, rest, todo, he, hp, hstage, htodo⟩ := adding_eq_some hadd
    obtain ⟨hvalid, htruth⟩ := hn r hadd
    obtain ⟨hclean, hown⟩ := ha r hadd
    have hrenamed := renamed_runAddContact (b.load i.env) (b.book.contacts r)
    have hedits : (b.load i.env).edits i.event = (b.load i.env).phase3Edits p := by
      rw [he]
      unfold edits
      dsimp only
      rw [show (b.load i.env).phase3 = p :: rest from hp]
    have hdone := runAddContact_truthful (b := b.load i.env) rfl hvalid htruth
    unfold EditsMeet
    rw [hedits, phase3Edits_add _ hstage htodo]
    show AllAlong Book.apply (Edit.MergesWell norm) b.book
      (if ((b.load i.env).runAddContact (b.book.contacts r)).1 = true then _ else _)
    split
    · -- the contact comes back under the name that the server gives it
      rename_i hok
      have hname := hdone hok
      refine ⟨⟨hs.2 r hadd, hrenamed, hname, fun x hx hw => ?_⟩, trivial⟩
      have hx' : b.book.nameToContact.lookup
          ((b.load i.env).runAddContact (b.book.contacts r)).2.1.name = some x := hx
      rw [hname] at hx'
      show ((b.load i.env).runAddContact (b.book.contacts r)).2.1.name.map norm
        = ((b.load i.env).runAddContact (b.book.contacts r)).2.1.name
      rw [hname]
      exact hown x hx' hw
    · rename_i hfail
      exact ⟨⟨hrenamed, hclean.resolve_left hfail⟩, trivial⟩

/-- A create request enters the contact, or changes the one that has its name. -/
theorem mem_createEdits {b : Backend} {ec : Contact.EVCard} {ed : Edit} (h : ed ∈ b.createEdits ec) :
    (∃ c, ed = .createContact c) ∨ ∃ r c unblocked, ed = .touch r (.submitted c unblocked) := by
  have henter : ∀ {b : Backend} {c : Contact}, ed ∈ b.enterEdits c →
      (∃ c, ed = .createContact c) ∨ ∃ r c unblocked, ed = .touch r (.submitted c unblocked) := by
    intro b c h
    unfold enterEdits at h
    split at h
    · exact .inr ⟨_, _, _, List.mem_singleton.mp h⟩
    · exact .inl ⟨_, List.mem_singleton.mp h⟩
  unfold createEdits at h
  split at h
  · cases h
  · dsimp only at h
    split at h
    · split at h
      · exact henter h
      · cases h
    · exact henter h

/-- **Creating contacts leads from one start of a synchronisation to another.** -/
theorem ready_createContact {b b' : Backend} {i : Input} {ec : Contact.EVCard} (hsane : Sane b)
    (h : b.book.Ready) (hi : i.event = .createContact ec) (hs : b.step i = some b') :
    b'.book.Ready := by
  refine take_book_inv (b := b.load i.env) (I := Book.Ready)
    (P := fun _ ed => (∃ c, ed = .createContact c)
      ∨ ∃ r c unblocked, ed = .touch r (.submitted c unblocked))
    (fun book ed hI ha hp hP _ => ?_) (hsane.load i.env) h ?_ hs
  · rcases hP with ⟨c, rfl⟩ | ⟨r, c, unblocked, rfl⟩
    · exact (hI.create ha hp).1
    · exact hI.submitted r c unblocked
  · rw [hi]
    exact allAlong_of_forall (fun ed hed _ => mem_createEdits hed) _

/--
**Contacts that normalise to one name are merged without loss.**

The run starts where every waiting contact is in the indexes, as it is after contacts were
created offline, and consists of synchronisations: any number of them, with requests that
fail in one and succeed in a later one, in any order. Once nobody waits any more there is
one contact for every final name, with the master UIDs of all and with their other names
among its variants, provided that no request fails after the contact has been renamed.
-/
theorem merged_without_loss {norm : String → String} {b₀ b : Backend} {is : List Input}
    (hready : b₀.book.Ready)
    (hrun : machine.Guarded (fun b i => (Syncing b i ∧ Normalising norm b i) ∧ AddsWell norm b i)
      b₀ is b)
    (hdone : b.book.contactsToAdd = ∅) : Book.MergedInto norm b₀.book b.book := by
  have hinv : ∃ cur, Book.Merging norm b₀.book cur b.book := by
    refine hrun.inv (I := fun b => ∃ cur, Book.Merging norm b₀.book cur b.book)
      (fun b i b' h hok hs => ?_) ⟨_, Book.merging_start hready⟩
    have hmeet := editsMeet_mergesWell hok.1.1 hok.1.2 hok.2
    have hbook : b'.book = ((b.load i.env).edits i.event).foldl Book.apply b.book := take_book hs
    rw [hbook]
    exact AllAlong.foldl_inv (I := fun book => ∃ cur, Book.Merging norm b₀.book cur book)
      (fun book ed hI hP => Book.merging_apply hI hP) hmeet h
  obtain ⟨cur, h⟩ := hinv
  exact h.mergedInto hdone

/-- A server that knows one name only in lower case. -/
def bobInLowerCase (n : String) : String := if n = "Bob" then "bob" else n

/-- A process that has imported an empty cache, and then two contacts were created offline. -/
def twoCreated : List Input :=
  [{ event := .phase0 },
   { event := .createContact [{ name := "X-JABBER", values := ["Bob"] },
      { name := "X-OSSO-MASTER-UID", values := ["1"] }] },
   { event := .createContact [{ name := "X-JABBER", values := ["bob"] },
      { name := "X-OSSO-MASTER-UID", values := ["2"] }] }]

/-- The server accepts a contact as "bob". -/
def accepted : List Reply := [{ handle := 9 }, { name := some "bob" }, {}, {}]

/-- Two synchronisations with an empty roster; the first adds "Bob" with these answers. -/
def addTwice (replies : List Reply) : List Input :=
  goOnline 1 0 ++ [{ event := .cl (.allMembers 4 (some {})) },
    { event := .phase2 }, { event := .phase3 [] }, { event := .phase3Next [0, 1] },
    { event := .phase3Next [], env := { replies := replies } },
    { event := .phase3Next [], env := { replies := accepted } },
    { event := .phase3Next [] }, { event := .phase3Next [] },
    { event := .cl (.connectionStatusChanged none) }]
  ++ goOnline 2 4 ++ [{ event := .cl (.allMembers 8 (some {})) },
    { event := .phase2 }, { event := .phase3 [] }, { event := .phase3Next [0] },
    { event := .phase3Next [], env := { replies := accepted } },
    { event := .phase3Next [] }, { event := .phase3Next [] }]

/-- The first request for "Bob" fails at once, the second one merges it into "bob". -/
theorem merged_without_loss_two :
    ∃ b₀ b, machine.Reaches (boot "acct" "X-JABBER" {}) b₀
      ∧ machine.Guarded (fun b i => (Syncing b i ∧ Normalising bobInLowerCase b i)
          ∧ AddsWell bobInLowerCase b i) b₀ (addTwice []) b
      ∧ b.book.contactsToAdd = ∅ ∧ Book.MergedInto bobInLowerCase b₀.book b.book := by
  have hrun : (((machine.run (boot "acct" "X-JABBER" {}) twoCreated).bind fun b₀ =>
      (machine.runChecked (fun b i => decide ((Syncing b i ∧ Normalising bobInLowerCase b i)
        ∧ AddsWell bobInLowerCase b i)) b₀ (addTwice [])).bind fun b =>
        if b₀.book.Ready ∧ b.book.contactsToAdd = ∅ then some (b₀, b) else none).isSome) = true := by
    decide +kernel
  obtain ⟨⟨c₀, c⟩, hbind⟩ := Option.isSome_iff_exists.mp hrun
  obtain ⟨b₀, hb₀, hbind⟩ := Option.bind_eq_some_iff.mp hbind
  obtain ⟨b, hb, hite⟩ := Option.bind_eq_some_iff.mp hbind
  split at hite
  · rename_i hfacts
    have hg : machine.Guarded (fun b i => (Syncing b i ∧ Normalising bobInLowerCase b i)
        ∧ AddsWell bobInLowerCase b i) b₀ (addTwice []) b :=
      Machine.guarded_of_runChecked (fun _ _ hc => of_decide_eq_true hc) hb
    exact ⟨b₀, b, ⟨_, hb₀⟩, hg, hfacts.2, merged_without_loss hfacts.1 hg hfacts.2⟩
  · cases hite

/--
The first request for "Bob" fails when the contact has been renamed already: the second one
finds the name it expects, and there are two contacts called "bob".
-/
theorem merged_not :
    ∃ b₀ b, machine.Reaches (boot "acct" "X-JABBER" {}) b₀ ∧ b₀.book.Ready
      ∧ machine.Guarded (fun b i => Syncing b i ∧ Normalising bobInLowerCase b i) b₀
          (addTwice [{ handle := 9 }, { name := some "bob" }, {}, { ok := false }]) b
      ∧ b.book.contactsToAdd = ∅ ∧ ¬ Book.MergedInto bobInLowerCase b₀.book b.book := by
  have hrun : (((machine.run (boot "acct" "X-JABBER" {}) twoCreated).bind fun b₀ =>
      (machine.runChecked (fun b i => decide (Syncing b i ∧ Normalising bobInLowerCase b i)) b₀
        (addTwice [{ handle := 9 }, { name := some "bob" }, {}, { ok := false }])).bind fun b =>
        if b₀.book.Ready ∧ b.book.contactsToAdd = ∅ ∧ b₀.book.Live 0
            ∧ b.book.Live 0 ∧ (b.book.contacts 0).name = some "bob"
            ∧ b.book.Live 1 ∧ (b.book.contacts 1).name = some "bob"
            ∧ Book.finalName bobInLowerCase b₀.book 0 = some "bob"
          then some (b₀, b) else none).isSome) = true := by
    decide +kernel
  obtain ⟨⟨c₀, c⟩, hbind⟩ := Option.isSome_iff_exists.mp hrun
  obtain ⟨b₀, hb₀, hbind⟩ := Option.bind_eq_some_iff.mp hbind
  obtain ⟨b, hb, hite⟩ := Option.bind_eq_some_iff.mp hbind
  split at hite
  · rename_i hfacts
    obtain ⟨hready, hdone, hlive₀, hl0, hn0, hl1, hn1, hfinal⟩ := hfacts
    have hg : machine.Guarded (fun b i => Syncing b i ∧ Normalising bobInLowerCase b i) b₀ _ b :=
      Machine.guarded_of_runChecked (fun _ _ hc => of_decide_eq_true hc) hb
    refine ⟨b₀, b, ⟨_, hb₀⟩, hready, hg, hdone, fun h => ?_⟩
    have hone := h.one 0 hlive₀
    rw [hfinal] at hone
    have h01 : (0 : Nat) = 1 := hone.unique ⟨hl0, hn0⟩ ⟨hl1, hn1⟩
    omega
  · cases hite

end Backend

end EdsTelepathy
