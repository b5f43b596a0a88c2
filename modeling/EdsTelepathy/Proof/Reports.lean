import EdsTelepathy.Proof.Relay

/-!
# What the roster changes, it passes on

Each callback of the roster layer changes the records of some contacts. Either a signal of
the same step carries the change, or a closure still waits that will pass it on, or the lists
of the roster are being read and will be passed on as a whole. The exceptions are the ways in
which a change is lost: an inspection that fails, a record that is not the roster's any more,
and information that is taken back.
-/

namespace EdsTelepathy

/-- What a report says about the information of contacts. -/
def Details.infos : Details → List (Nat × Option String)
  | .contactInfoChanged h info => [(h, info)]
  | .contactInfoForMembers infos => infos
  | _ => []

/-- The handles that a report says have no information, or none any more. -/
def Details.cleared (d : Details) : List Nat :=
  (d.infos.filter fun p => ∀ q ∈ d.infos, q.1 = p.1 → q.2 = none).map Prod.fst

namespace Cl

/-- The handles whose information a report is about, while there is a connection. -/
def informed (cl : Cl) (d : Details) : List Nat :=
  if cl.isConnected then d.infos.map Prod.fst else []

/-- A deferred closure has still to pass on the lists of the contact. -/
def Updating (cl : Cl) (r : Nat) : Prop :=
  ∃ p ∈ cl.calls, ∃ k ∈ p.2.closure, r ∈ k.contactsToUpdate

instance (cl : Cl) (r : Nat) : Decidable (cl.Updating r) :=
  inferInstanceAs (Decidable (∃ p ∈ cl.calls, ∃ k ∈ p.2.closure, r ∈ k.contactsToUpdate))

/-- The lists of the contact will be passed on: by a closure, or at the end of `get_members`. -/
def Pending (cl : Cl) (x : Nat) : Prop := 0 < cl.owed ∨ ∃ r ∈ cl.lookup x, cl.Updating r

instance (cl : Cl) (x : Nat) : Decidable (cl.Pending x) :=
  inferInstanceAs (Decidable (_ ∨ ∃ r ∈ cl.lookup x, cl.Updating r))

theorem Pending.append {cl cl' : Cl} {x : Nat} (h : cl.Pending x)
    (hhash : cl'.lookup x = cl.lookup x) (hcalls : ∃ calls, cl'.calls = cl.calls ++ calls) :
    cl'.Pending x := by
  obtain ⟨calls, hcalls⟩ := hcalls
  rcases h with howed | ⟨r, hr, p, hp, hk⟩
  · left
    unfold owed at howed ⊢
    rw [hcalls, List.countP_append]
    omega
  · right
    rw [hhash]
    exact ⟨r, hr, p, by rw [hcalls]; exact List.mem_append_left _ hp, hk⟩

/-- What is pending before a callback runs is pending afterwards, or a matter of its call. -/
theorem pending_takeCall {cl cl₁ : Cl} {i : Nat} {c : Call} {x : Nat}
    (ht : cl.takeCall i = some (c, cl₁)) (h : cl.Pending x) :
    cl₁.Pending x ∨ c.isWalk = true
      ∨ ∃ r ∈ cl.lookup x, ∃ k ∈ c.closure, r ∈ k.contactsToUpdate := by
  rcases h with howed | ⟨r, hr, p, hp, k, hk, hin⟩
  · by_cases hw : c.isWalk = true
    · exact .inr (.inl hw)
    · left; left
      rw [owed_takeOther ht (by simpa using hw)]
      exact howed
  · obtain ⟨conn, hperm⟩ := takeCall_perm ht
    rcases List.mem_cons.mp (hperm.mem_iff.mp hp) with rfl | hp'
    · exact .inr (.inr ⟨r, hr, k, hk, hin⟩)
    · left; right
      obtain ⟨-, -, rfl⟩ := takeCall_eq ht
      exact ⟨r, hr, p, hp', k, hk, hin⟩

/--
What a callback passes on. `A` are the handles whose lists the address book has right
anyway, `C` those whose information is taken back, `named` those that the reply names, and
`reports` those whose information is reported.
-/
structure Tells (cl : Cl) (A C : Nat → Prop) (named reports : List Nat) (r : Cl × List Signal) :
    Prop where
  kept : ∀ h x, (cl.lookup h).isSome = true → r.1.lookup h = some x → cl.lookup h = some x
  relays : r.1.RelaysAll named r.2
  fields : ∀ f h x, f ≠ .flags → f ≠ .contactInfo → cl.lookup h = some x → r.1.lookup h = some x →
    Told r.2 f h ∨ Carried.Agrees f (r.1.contacts x) (cl.contacts x)
  flags : ∀ h x, cl.lookup h = some x → r.1.lookup h = some x →
    Told r.2 .flags h ∨ r.1.Pending h
      ∨ ((cl.contacts x).flags = (r.1.contacts x).flags ∧ (cl.Pending h → A h))
  info : ∀ h x, cl.lookup h = some x → r.1.lookup h = some x →
    Told r.2 .contactInfo h ∨ ((r.1.contacts x).contactInfo = none ∧ C h)
      ∨ ((cl.contacts x).contactInfo = (r.1.contacts x).contactInfo ∧ h ∉ reports)

section Callbacks

variable {A C : Nat → Prop} {named reports : List Nat}

/-- A callback that changes no record and no entry. -/
theorem tells_frame {cl cl' : Cl} {signals : List Signal}
    (hhash : cl'.contactsHash = cl.contactsHash) (hcon : cl'.contacts = cl.contacts)
    (hpend : ∀ x, (cl.lookup x).isSome = true → cl.Pending x → cl'.Pending x ∨ A x)
    (hrel : cl'.RelaysAll named signals) : Tells cl A C named [] (cl', signals) where
  kept := fun h x _ hx => by
    unfold lookup at hx ⊢
    rw [← hhash]; exact hx
  relays := hrel
  fields := fun f h x _ _ _ _ => .inr (by dsimp only; rw [hcon]; exact .refl f _)
  flags := fun h x hx _ => by
    by_cases hp : cl.Pending h
    · rcases hpend h (by rw [hx]; rfl) hp with hp' | ha
      · exact .inr (.inl hp')
      · exact .inr (.inr ⟨by rw [hcon], fun _ => ha⟩)
    · exact .inr (.inr ⟨by rw [hcon], fun hp' => absurd hp' hp⟩)
  info := fun h x _ _ => .inr (.inr ⟨by rw [hcon], List.not_mem_nil⟩)

/-! ## Signals about records of the roster -/

theorem relays_carried {cl : Cl} {s : Signal} {f : Carried} (hf : s.carries = some f)
    (hown : ∀ c ∈ s.contacts, cl.Own c) (ss : List Signal) : cl.Relays named ss s := by
  cases s <;> simp only [Signal.carries, reduceCtorEq] at hf
  case avatarDataChanged c => exact hown c (List.mem_singleton_self c)
  all_goals exact hown

theorem relaysAll_of_carried {cl : Cl} {ss : List Signal}
    (h : ∀ s ∈ ss, (∃ cs, s = .contactsRemoved cs)
      ∨ ((∃ f, s.carries = some f) ∧ ∀ c ∈ s.contacts, cl.Own c)) : cl.RelaysAll named ss := by
  induction ss with
  | nil => trivial
  | cons s ss ih =>
    refine ⟨?_, ih fun s' hs' => h s' (List.mem_cons_of_mem s hs')⟩
    rcases h s List.mem_cons_self with ⟨cs, rfl⟩ | ⟨⟨f, hf⟩, hown⟩
    · trivial
    · exact relays_carried hf hown ss

/-- The records that a loop has found in the roster are the roster's own. -/
theorem ByHandle.own_read {cl cl' cl'' : Cl} (h : ByHandle cl) (hs : SameHandles cl cl')
    (hcon : cl''.contacts = cl'.contacts) (hsub : ∀ x r, cl''.lookup x = some r → cl.lookup x = some r)
    {rs : List Nat} (hrs : Known cl rs) : ∀ c ∈ cl'.read rs, cl''.Own c := by
  intro c hc x hx
  obtain ⟨r, hr, rfl⟩ := List.mem_map.mp hc
  obtain ⟨y, hy⟩ := hrs r hr
  obtain ⟨hlt, hh⟩ := h.entry y r hy
  have hx' := hsub _ _ hx
  rw [hs.handle r hlt, hh, hy] at hx'
  rw [hcon, Option.some.inj hx']

theorem told_emit {cl : Cl} {rs : List Nat} {sig : List Contact → Signal} {f : Carried}
    (hsig : ∀ cs, (sig cs).carries = some f ∧ (sig cs).contacts = cs) {x r : Nat} (hr : r ∈ rs)
    (hx : (cl.contacts r).handle = x) : Told (cl.emit rs sig) f x := by
  have hone : cl.emit rs sig = [sig (cl.read rs)] := if_neg (List.ne_nil_of_mem hr)
  rw [hone]
  refine ⟨sig (cl.read rs), List.mem_singleton_self _, (hsig _).1, cl.contacts r, ?_, hx⟩
  rw [(hsig _).2]
  exact List.mem_map.mpr ⟨r, hr, rfl⟩

theorem Told.append_left {ss ss' : List Signal} {f : Carried} {x : Nat} (h : Told ss f x) :
    Told (ss ++ ss') f x := by
  obtain ⟨s, hs, hrest⟩ := h
  exact ⟨s, List.mem_append_left _ hs, hrest⟩

theorem Told.append_right {ss ss' : List Signal} {f : Carried} {x : Nat} (h : Told ss' f x) :
    Told (ss ++ ss') f x := by
  obtain ⟨s, hs, hrest⟩ := h
  exact ⟨s, List.mem_append_right _ hs, hrest⟩

/-! ## Reports -/

/-- The loop of a report has changed one field, of the contacts that it found. -/
structure Reporting (f : Carried) (cl : Cl) (st : Cl × List Nat) : Prop where
  only : DetailsOnly cl st.1
  known : Known cl st.2
  /-- Information is told apart, since some of it is not passed on. -/
  rest : f ≠ .contactInfo → ∀ r, r ∉ st.2 → st.1.contacts r = cl.contacts r
  others : ∀ r g, g ≠ f → Carried.Agrees g (st.1.contacts r) (cl.contacts r)

theorem reporting_detailsChanged {α : Type} (handle : α → Nat) {f : Carried}
    (change : α → Contact → Contact) (hsame : ∀ a c, Contact.SameRecord c (change a c))
    (hcopy : ∀ a c, ∃ src, change a c = f.copy src c) (cl : Cl) (xs : List α) :
    Reporting f cl (cl.detailsChanged handle change xs) := by
  refine foldl_inv (I := Reporting f cl) (fun st a h => ?_) xs
    ⟨.refl cl, fun _ hr => (by cases hr), fun _ _ _ => rfl, fun _ g _ => .refl g _⟩
  unfold detailChanged
  split
  · rename_i r hr
    rw [h.only.lookup] at hr
    refine ⟨h.only.modify r (hsame a), h.known.snoc hr, fun hf r' hr' => ?_, fun r' g hg => ?_⟩
    · rw [List.mem_append, List.mem_singleton, not_or] at hr'
      exact (modify_contacts_of_ne hr'.2).trans (h.rest hf r' hr'.1)
    · show Carried.Agrees g ((st.1.modify r (change a)).contacts r') _
      by_cases he : r' = r
      · subst he
        rw [modify_contacts_self]
        obtain ⟨src, hsrc⟩ := hcopy a (st.1.contacts r')
        rw [hsrc]
        exact (Carried.agrees_copy_of_ne hg src _).symm.trans (h.others r' g hg)
      · rw [modify_contacts_of_ne he]
        exact h.others r' g hg
  · exact h

theorem reporting_contactInfo (cl : Cl) (infos : List (Nat × Option String)) :
    Reporting .contactInfo cl (infos.foldl contactInfoReported (cl, [])) := by
  obtain ⟨honly, hknown⟩ := contactInfoReported_spec cl infos
  refine ⟨honly, hknown, fun hf => absurd rfl hf, ?_⟩
  refine foldl_inv (I := fun st : Cl × List Nat => ∀ r g, g ≠ .contactInfo →
    Carried.Agrees g (st.1.contacts r) (cl.contacts r)) (s := (cl, []))
    (fun st p h r g hg => ?_) infos fun r g _ => .refl g (cl.contacts r)
  unfold contactInfoReported
  split
  · rename_i r' _
    dsimp only
    by_cases he : r = r'
    · subst he
      rw [modify_contacts_self]
      -- what the loop does to the contact is what a handler copies
      have hcopy := Carried.agrees_copy_of_ne hg { Contact.new with contactInfo := p.2 }
        (st.1.contacts r)
      exact hcopy.symm.trans (h r g hg)
    · rw [modify_contacts_of_ne he]
      exact h r g hg
  · exact h r g hg

/-- **A report** is passed on by its signal. -/
theorem Reporting.tells {f : Carried} {cl : Cl} {st : Cl × List Nat} (hr : Reporting f cl st)
    (h : ByHandle cl) (hf : f ≠ .flags) {rs : List Nat} (hrs : ∀ r, r ∈ rs ↔ r ∈ st.2)
    (sig : List Contact → Signal) (hsig : ∀ cs, (sig cs).carries = some f ∧ (sig cs).contacts = cs)
    (hinfo : ∀ x r, cl.lookup x = some r → Told (st.1.emit rs sig) .contactInfo x
      ∨ ((st.1.contacts r).contactInfo = none ∧ C x)
      ∨ ((cl.contacts r).contactInfo = (st.1.contacts r).contactInfo ∧ x ∉ reports)) :
    Tells cl A C named reports (st.1, st.1.emit rs sig) := by
  have hsame := hr.only.sameHandles
  have htold : ∀ {x r}, cl.lookup x = some r → r ∈ st.2 → Told (st.1.emit rs sig) f x := by
    intro x r hx hin
    obtain ⟨hlt, hh⟩ := h.entry x r hx
    exact told_emit hsig ((hrs r).mpr hin) ((hsame.handle r hlt).trans hh)
  refine ⟨fun x r _ hx => ?_, relaysAll_of_carried fun s hs => .inr ?_, fun g x r _ hg hx _ => ?_,
    fun x r hx _ => ?_, fun x r hx _ => hinfo x r hx⟩
  · rw [← hsame.lookup]; exact hx
  · rw [mem_emit hs]
    refine ⟨⟨f, (hsig _).1⟩, fun c hc => ?_⟩
    rw [(hsig _).2] at hc
    exact h.own_read hsame rfl (fun x r hx => by rw [← hsame.lookup]; exact hx)
      (fun r hr' => hr.known r ((hrs r).mp hr')) c hc
  · by_cases hgf : g = f
    · subst hgf
      by_cases hin : r ∈ st.2
      · exact .inl (htold hx hin)
      · right
        dsimp only
        rw [hr.rest hg r hin]
        exact .refl g _
    · exact .inr (hr.others r g hgf)
  · obtain ⟨heap, heq, hheap⟩ := hr.only
    by_cases hp : cl.Pending x
    · refine .inr (.inl (hp.append (hsame.lookup x) ⟨[], ?_⟩))
      rw [heq, List.append_nil]
    · exact .inr (.inr ⟨(hr.others r .flags hf.symm), fun hp' => absurd hp' hp⟩)

/-- A report that is not about information. -/
theorem Reporting.tells_other {f : Carried} {cl : Cl} {st : Cl × List Nat} (hr : Reporting f cl st)
    (h : ByHandle cl) (hf : f ≠ .flags) (hi : f ≠ .contactInfo) {rs : List Nat}
    (hrs : ∀ r, r ∈ rs ↔ r ∈ st.2) (sig : List Contact → Signal)
    (hsig : ∀ cs, (sig cs).carries = some f ∧ (sig cs).contacts = cs) :
    Tells cl A C named [] (st.1, st.1.emit rs sig) :=
  hr.tells h hf hrs sig hsig fun _ r _ => .inr (.inr ⟨hr.others r .contactInfo hi.symm, List.not_mem_nil⟩)

/-- A report of the image, which is not compared. -/
theorem tells_image {cl : Cl} (h : ByHandle cl) {x r : Nat} (hr : cl.lookup x = some r)
    (change : Contact → Contact) (hsame : ∀ c, Contact.SameRecord c (change c))
    (himage : ∀ c g, Carried.Agrees g c (change c)) (sig : Signal) {f : Carried}
    (hsig : sig.carries = some f ∧ sig.contacts = (cl.modify r change).read [r]) :
    Tells cl A C named [] (cl.modify r change, [sig]) := by
  have honly : DetailsOnly cl (cl.modify r change) := (DetailsOnly.refl cl).modify r hsame
  have hagree : ∀ r' g, Carried.Agrees g ((cl.modify r change).contacts r') (cl.contacts r') := by
    intro r' g
    by_cases he : r' = r
    · subst he
      rw [modify_contacts_self]
      exact (himage _ g).symm
    · rw [modify_contacts_of_ne he]
      exact .refl g _
  refine ⟨fun _ _ _ hx => hx, relaysAll_of_carried fun s hs => .inr ?_,
    fun g _ r' _ _ _ _ => .inr (hagree r' g), fun y r' _ _ => ?_,
    fun _ r' _ _ => .inr (.inr ⟨hagree r' .contactInfo, List.not_mem_nil⟩)⟩
  · rw [List.mem_singleton] at hs
    subst hs
    refine ⟨⟨f, hsig.1⟩, fun c hc => ?_⟩
    rw [hsig.2] at hc
    refine h.own_read honly.sameHandles rfl (fun _ _ hx => hx) (fun r' hr' => ?_) c hc
    rw [List.mem_singleton.mp hr']
    exact ⟨x, hr⟩
  · by_cases hp : cl.Pending y
    · exact .inr (.inl (hp.append rfl ⟨[], (List.append_nil _).symm⟩))
    · exact .inr (.inr ⟨hagree r' .flags, fun hp' => absurd hp' hp⟩)

/-- What a contact was last told is in the report, or there was nothing about it. -/
theorem contactInfo_loop {x r : Nat} (infos : List (Nat × Option String)) {st : Cl × List Nat}
    (hx : st.1.lookup x = some r) (huniq : ∀ y, st.1.lookup y = some r → y = x) :
    (r ∈ st.2 → r ∈ (infos.foldl contactInfoReported st).2)
      ∧ (r ∈ (infos.foldl contactInfoReported st).2
        ∨ (∀ p ∈ infos, p.1 = x → p.2 = none)
          ∧ ((∃ p ∈ infos, p.1 = x) →
            ((infos.foldl contactInfoReported st).1.contacts r).contactInfo = none)
          ∧ ((st.1.contacts r).contactInfo = none ∨ (∀ p ∈ infos, p.1 ≠ x) →
            ((infos.foldl contactInfoReported st).1.contacts r).contactInfo
              = (st.1.contacts r).contactInfo)) := by
  induction infos generalizing st with
  | nil =>
    refine ⟨id, .inr ⟨fun _ hp => (by cases hp), ?_, fun _ => rfl⟩⟩
    rintro ⟨p, hp, -⟩
    cases hp
  | cons p infos ih =>
    rw [List.foldl_cons]
    -- the table of handles stays, so the handle is still that of this contact alone
    have hlook : ∀ y, (contactInfoReported st p).1.lookup y = st.1.lookup y := by
      intro y
      unfold contactInfoReported
      split <;> rfl
    obtain ⟨hmono, hend⟩ := @ih (contactInfoReported st p) ((hlook x).trans hx)
      fun y hy => huniq y ((hlook y).symm.trans hy)
    have hsub : r ∈ st.2 → r ∈ (contactInfoReported st p).2 := by
      intro hin
      unfold contactInfoReported
      split
      · dsimp only
        split
        · exact hin
        · exact List.mem_append_left _ hin
      · exact hin
    refine ⟨fun hin => hmono (hsub hin), ?_⟩
    by_cases hpx : p.1 = x
    · have hstep : contactInfoReported st p = (st.1.modify r fun c => { c with contactInfo := p.2 },
          if p.2 = none then st.2 else st.2 ++ [r]) := by
        unfold contactInfoReported
        rw [hpx, hx]
      cases hinfo : p.2 with
      | some info =>
        refine .inl (hmono ?_)
        rw [hstep, hinfo]
        exact List.mem_append_right _ (List.mem_singleton_self r)
      -- nothing is reported yet, and only an entry that follows can change that
      | none =>
        have hgone : ((contactInfoReported st p).1.contacts r).contactInfo = none := by
          rw [hstep]
          dsimp only
          rw [modify_contacts_self]
          exact hinfo
        refine hend.imp_right fun hrest => ?_
        obtain ⟨hall, -, hkept⟩ := hrest
        have hlast := (hkept (.inl hgone)).trans hgone
        refine ⟨fun q hq hqx => ?_, fun _ => hlast, fun hnone => hlast.trans ?_⟩
        · rcases List.mem_cons.mp hq with rfl | hq
          · exact hinfo
          · exact hall q hq hqx
        · exact (hnone.resolve_right fun hne => hne p List.mem_cons_self hpx).symm
    · have hkept : (contactInfoReported st p).1.contacts r = st.1.contacts r := by
        unfold contactInfoReported
        split
        · rename_i r' hr'
          dsimp only
          refine modify_contacts_of_ne fun he => hpx (huniq p.1 ?_)
          rw [he]; exact hr'
        · rfl
      rw [hkept] at hend
      refine hend.imp_right fun hrest => ?_
      obtain ⟨hall, hnone, hsame⟩ := hrest
      refine ⟨fun q hq hqx => ?_, fun hex => ?_,
        fun hor => hsame (hor.imp_right fun hne q hq => hne q (List.mem_cons_of_mem p hq))⟩
      · rcases List.mem_cons.mp hq with rfl | hq
        · exact absurd hqx hpx
        · exact hall q hq hqx
      · obtain ⟨q, hq, hqx⟩ := hex
        rcases List.mem_cons.mp hq with rfl | hq
        · exact absurd hqx hpx
        · exact hnone ⟨q, hq, hqx⟩

/-- **A report of information** is passed on where it is there. -/
theorem tells_contactInfo {cl : Cl} (h : ByHandle cl) (infos : List (Nat × Option String))
    (hC : ∀ p ∈ infos, (∀ q ∈ infos, q.1 = p.1 → q.2 = none) → C p.1) :
    Tells cl A C named (infos.map Prod.fst) (cl.getContactInfoForMembersCb infos) := by
  have hr := reporting_contactInfo cl infos
  refine hr.tells h (by decide) (fun _ => Iff.rfl) .contactInfoChanged (fun _ => ⟨rfl, rfl⟩) fun x r hx => ?_
  obtain ⟨hlt, hh⟩ := h.entry x r hx
  obtain ⟨-, hend⟩ := @contactInfo_loop x r infos (cl, []) hx fun y hy =>
    (h.entry y r hy).2.symm.trans hh
  rcases hend with hin | ⟨hall, hnone, hsame⟩
  · exact .inl (told_emit (fun _ => ⟨rfl, rfl⟩) hin ((hr.only.sameHandles.handle r hlt).trans hh))
  · by_cases hex : ∃ p ∈ infos, p.1 = x
    · obtain ⟨p, hp, hpx⟩ := hex
      subst hpx
      exact .inr (.inl ⟨hnone ⟨p, hp, rfl⟩, hC p hp hall⟩)
    · have hne : ∀ p ∈ infos, p.1 ≠ x := fun p hp hpx => hex ⟨p, hp, hpx⟩
      refine .inr (.inr ⟨(hsame (.inr hne)).symm, fun hmem => ?_⟩)
      obtain ⟨p, hp, hpx⟩ := List.mem_map.mp hmem
      exact hne p hp hpx

theorem withCapability_eq (cap : ContactCapability) (c : Contact) :
    c.withCapability cap = Carried.capabilities.copy (c.withCapability cap) c := by
  unfold Contact.withCapability
  dsimp only
  split
  · split <;> rfl
  · split <;> rfl

/-- The contacts that a loop has found are told apart by their handles. -/
theorem ByHandle.eq_of_handle {cl cl' : Cl} (h : ByHandle cl) (ho : DetailsOnly cl cl')
    {rs : List Nat} (hrs : Known cl rs) {a b : Nat} (ha : a ∈ rs) (hb : b ∈ rs)
    (he : (cl'.contacts a).handle = (cl'.contacts b).handle) : a = b := by
  obtain ⟨x, hx⟩ := hrs a ha
  obtain ⟨y, hy⟩ := hrs b hb
  obtain ⟨hax, hxh⟩ := h.entry x a hx
  obtain ⟨hby, hyh⟩ := h.entry y b hy
  rw [ho.sameHandles.handle a hax, ho.sameHandles.handle b hby, hxh, hyh] at he
  subst he
  exact Option.some.inj (hx.symm.trans hy)

/-- Removing duplicates loses nobody. -/
theorem mem_withoutDuplicates {cl cl' : Cl} (h : ByHandle cl) (ho : DetailsOnly cl cl')
    {order rs : List Nat} (hrs : Known cl rs) {a : Nat} :
    a ∈ cl'.withoutDuplicates (arranged order rs) ↔ a ∈ rs := by
  have hsub : ∀ x, x ∈ arranged order rs → x ∈ rs := fun x hx => (arranged_perm order rs).subset hx
  unfold withoutDuplicates
  rw [Distinct.mem_withoutAdjacent fun x hx y hy he =>
    h.eq_of_handle ho hrs (hsub x hx) (hsub y hy) he]
  exact (arranged_perm order rs).mem_iff

/-- **Every report is passed on**, but for information that is taken back. -/
theorem tells_report {cl : Cl} (h : ByHandle cl) {d : Details}
    (hC : cl.isConnected = true → ∀ x ∈ d.cleared, C x) :
    Tells cl A C named (cl.informed d) (cl.detailsCb d) := by
  have hcleared : cl.isConnected = true →
      ∀ p ∈ d.infos, (∀ q ∈ d.infos, q.1 = p.1 → q.2 = none) → C p.1 := by
    intro hc p hp hall
    refine hC hc p.1 (List.mem_map.mpr ⟨p, List.mem_filter.mpr ⟨hp, ?_⟩, rfl⟩)
    exact decide_eq_true hall
  have hsilent : Tells cl A C named [] (cl, []) :=
    tells_frame rfl rfl (fun _ _ hp => .inl hp) trivial
  unfold informed detailsCb
  by_cases hc : cl.isConnected = true
  · rw [if_pos hc, if_pos hc]
    cases d with
    | aliasesChanged aliases =>
      -- the three cases with a loop differ in what they copy, and to whom it is sent
      have hr := reporting_detailsChanged (f := .aliasName) Prod.fst
        (fun (a : Nat × String) c => { c with aliasName := some a.2 })
        (fun _ _ => ⟨rfl, rfl, rfl, rfl⟩)
        (fun a _ => ⟨{ Contact.new with aliasName := some a.2 }, rfl⟩) cl aliases
      exact hr.tells_other h (by decide) (by decide) (fun _ => Iff.rfl) .aliasesChanged
        fun _ => ⟨rfl, rfl⟩
    | presencesChanged presences =>
      have hr := reporting_detailsChanged (f := .presence) Prod.fst
        (fun (p : Nat × Presence) c =>
          { c with
            genericStatus := p.2.type
            status := p.2.status
            statusMessage := p.2.message })
        (fun _ _ => ⟨rfl, rfl, rfl, rfl⟩)
        (fun p _ => ⟨{ Contact.new with
          genericStatus := p.2.type
          status := p.2.status
          statusMessage := p.2.message }, rfl⟩) cl presences
      exact hr.tells_other h (by decide) (by decide) (fun _ => Iff.rfl) .presencesChanged
        fun _ => ⟨rfl, rfl⟩
    | avatarUpdated x token =>
      show Tells cl A C named [] (cl.avatarUpdatedCb x token)
      unfold avatarUpdatedCb
      -- an image is one of one contact, if its handle is known
      split
      · rename_i r hr
        split
        · exact hsilent
        · exact tells_image h hr (fun c => { c with avatarToken := some token })
            (fun _ => ⟨rfl, rfl, rfl, rfl⟩) (fun c g => g.agrees_image c _ _ _ _)
            (.avatarTokensChanged _) ⟨rfl, rfl⟩
      · exact hsilent
    | avatarRetrieved x token data mime =>
      show Tells cl A C named [] (cl.avatarRetrievedCb x token data mime)
      unfold avatarRetrievedCb
      split
      · rename_i r hr
        exact tells_image h hr
          (fun c => { c with
            avatarLen := data.length
            avatarData := some data
            avatarMime := some mime
            avatarToken := some token })
          (fun _ => ⟨rfl, rfl, rfl, rfl⟩) (fun c g => g.agrees_image c _ _ _ _)
          (.avatarDataChanged _) ⟨rfl, rfl⟩
      · exact hsilent
    | capabilities caps order =>
      have hr := reporting_detailsChanged (f := .capabilities) ContactCapability.handle
        Contact.withCapability sameRecord_withCapability
        (fun cap c => ⟨c.withCapability cap, withCapability_eq cap c⟩) cl
        (caps.map ContactCapability.unpacked)
      -- the array is sorted and thinned out, and still names everybody
      exact hr.tells_other h (by decide) (by decide)
        (fun _ => mem_withoutDuplicates h hr.only hr.known) .capabilitiesChanged
        fun _ => ⟨rfl, rfl⟩
    | contactCapabilities caps order =>
      have hr := reporting_detailsChanged (f := .capabilities) Prod.fst
        (fun (p : Nat × Flags) c => { c with capabilities := p.2 })
        (fun _ _ => ⟨rfl, rfl, rfl, rfl⟩)
        (fun p _ => ⟨{ Contact.new with capabilities := p.2 }, rfl⟩) cl caps
      exact hr.tells_other h (by decide) (by decide)
        (fun _ => mem_withoutDuplicates h hr.only hr.known) .capabilitiesChanged
        fun _ => ⟨rfl, rfl⟩
    | contactInfoChanged x info => exact tells_contactInfo h [(x, info)] (hcleared hc)
    | contactInfoForMembers infos => exact tells_contactInfo h infos (hcleared hc)
  · rw [if_neg hc, if_neg hc]
    exact hsilent

end Callbacks

end Cl

end EdsTelepathy
