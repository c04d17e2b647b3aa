import OneShot.Proofs.Dictionary
import OneShot.Proofs.Json.Members
import OneShot.Proofs.Json.Recognition

/-! Arrays and objects of recognized pieces. The reader goes from piece to piece; what stands between two
of them is white space and a comma. An object takes its state from member to member. -/

namespace OneShot.Json

variable {α β σ : Type} {s r rest : List Char} {n : Nat}

/-- What stands before a piece, or before the end: `last` closes the whole, and each piece begins with
`lead`. -/
inductive Between (last : Char) (lead : List Char) : Bool → List Char → Next → Prop
  | done {first : Bool} {w r : List Char} (hw : Space w) :
      Between last lead first (w ++ last :: r) (.done r)
  | first {w t : List Char} (hw : Space w) : Between last lead true (w ++ (lead ++ t)) (.more t)
  | rest {w v t : List Char} (hw : Space w) (hv : Space v) :
      Between last lead false (w ++ ',' :: (v ++ (lead ++ t))) (.more t)

theorem between_of_nextItem {first : Bool} {next : Next} (h : nextItem first s = .ok next) :
    Between ']' [] first s next := by
  obtain ⟨w, hw, hs⟩ := exists_skipSpace s
  rw [nextItem] at h
  split at h
  · cases h
  · rename_i hk
    cases h
    rw [hk] at hs
    exact hs ▸ .done hw
  · rename_i c t _ hk
    rw [hk] at hs
    split at h
    · rename_i hf
      cases h
      exact hf ▸ hs ▸ .first hw
    · rename_i hf
      split at h
      · rename_i hc
        obtain ⟨v, hv, ht⟩ := exists_skipSpace t
        split at h
        · cases h
        · cases h
        · cases h
          have hb : Between ']' [] false (w ++ ',' :: (v ++ ([] ++ skipSpace t)))
              (.more (skipSpace t)) := .rest hw hv
          rw [Bool.eq_false_iff.mpr hf, hs, hc]
          rwa [List.nil_append, ← ht] at hb
      · cases h

theorem between_of_nextName {first : Bool} {next : Next} (h : nextName first s = .ok next) :
    Between '\x7d' ['"'] first s next := by
  obtain ⟨w, hw, hs⟩ := exists_skipSpace s
  rw [nextName] at h
  split at h
  · cases h
  · rename_i hk
    cases h
    rw [hk] at hs
    exact hs ▸ .done hw
  · rename_i c t _ hk
    rw [hk] at hs
    split at h
    · rename_i hf
      split at h
      · rename_i hc
        cases h
        rw [hf, hs, hc]
        exact .first hw
      · cases h
    · rename_i hf
      split at h
      · rename_i hc
        obtain ⟨v, hv, ht⟩ := exists_skipSpace t
        split at h
        · cases h
        · rename_i hk
          cases h
          rw [hk] at ht
          rw [Bool.eq_false_iff.mpr hf, hs, hc, ht]
          exact .rest hw hv
        · cases h
        · cases h
      · cases h

theorem nextItem_done (first : Bool) {w : List Char} (hw : Space w) (r : List Char) :
    nextItem first (w ++ ']' :: r) = .ok (.done r) := by
  have hk : skipSpace (w ++ ']' :: r) = ']' :: r := hw.skipSpace_append _
  simp only [nextItem, hk]

theorem nextName_done (first : Bool) {w : List Char} (hw : Space w) (r : List Char) :
    nextName first (w ++ '\x7d' :: r) = .ok (.done r) := by
  have hk : skipSpace (w ++ '\x7d' :: r) = '\x7d' :: r := hw.skipSpace_append _
  simp only [nextName, hk]

theorem nextItem_space {w : List Char} (hw : Space w) (first : Bool) (s : List Char) :
    nextItem first (w ++ s) = nextItem first s := by
  simp only [nextItem, hw.skipSpace_append]

theorem nextItem_comma_space {v : List Char} (hv : Space v) {c : Char} (hc : opensValue c = true)
    (s : List Char) : nextItem false (',' :: (v ++ c :: s)) = .ok (.more (c :: s)) := by
  have he : nextItem false (',' :: (v ++ c :: s)) = nextItem false (',' :: c :: s) := by
    simp [nextItem, skipSpace_cons (c := ',') rfl, hv.skipSpace_append]
  rw [he, nextItem_comma hc]

theorem nextName_rest {w v : List Char} (hw : Space w) (hv : Space v) (s : List Char) :
    nextName false (w ++ ',' :: (v ++ '"' :: s)) = .ok (.more s) := by
  have hk : skipSpace (w ++ ',' :: (v ++ '"' :: s)) = ',' :: (v ++ '"' :: s) :=
    hw.skipSpace_append _
  have hq : skipSpace (v ++ '"' :: s) = '"' :: s := hv.skipSpace_append _
  simp [nextName, hk, hq]

/-! Arrays. -/

/-- An array and the values of its items. -/
def ListOf (Form : List Char → α → Prop) (text : List Char) (as : List α) : Prop :=
  ∃ items, IsArray text items ∧ List.Forall₂ Form items as

section

variable {item : Reader α} {Form : List Char → α → Prop} {as : List α}

/-- The array ends, or an item is read and then the others. -/
theorem readItems_succ_sound {first : Bool} (hi : Recognizes item Form)
    (h : readItems item (n + 1) first s = .ok (as, r)) :
    (∃ w, Space w ∧ s = w ++ ']' :: r ∧ as = []) ∨
      ∃ u text a s' as', Between ']' [] first s (.more (u ++ (text ++ s'))) ∧ Space u ∧
        Form text a ∧ readItems item n false s' = .ok (as', r) ∧ as = a :: as' := by
  obtain ⟨next, hnext, h⟩ := exists_of_bind_eq_ok h
  have hb := between_of_nextItem hnext
  cases next with
  | done t =>
    cases h
    cases hb with
    | @done _ w _ hw => exact .inl ⟨w, hw, rfl, rfl⟩
  | more t =>
    obtain ⟨⟨a, s'⟩, ha, h⟩ := exists_of_bind_eq_ok h
    obtain ⟨⟨as', _⟩, has, h⟩ := exists_of_bind_eq_ok h
    cases h
    obtain ⟨u, text, rfl, hu, hf⟩ := hi.sound _ _ _ ha
    exact .inr ⟨u, text, a, s', as', hb, hu, hf, has, rfl⟩

theorem readItems_rest_sound (hi : Recognizes item Form)
    (h : readItems item n false s = .ok (as, r)) :
    ∃ rest items, s = rest ++ ']' :: r ∧ Tail Eq rest items ∧ List.Forall₂ Form items as := by
  induction n generalizing s as with
  | zero => cases h
  | succ n ih =>
    rcases readItems_succ_sound hi h with ⟨w, hw, hs, rfl⟩ | ⟨u, text, a, s', as', hb, hu, hf, has, rfl⟩
    · exact ⟨w, [], hs, .done hw, .nil⟩
    · obtain ⟨rest, items, rfl, htail, hfs⟩ := ih has
      cases hb with
      | @rest w v _ hw hv =>
        exact ⟨w ++ ',' :: ((v ++ u) ++ (text ++ rest)), text :: items, by simp,
          .next hw (hv.append hu) rfl htail, .cons hf hfs⟩

theorem readItems_sound (hi : Recognizes item Form) (h : readItems item n true s = .ok (as, r)) :
    ∃ text, '[' :: s = text ++ r ∧ ListOf Form text as := by
  cases n with
  | zero => cases h
  | succ n =>
    rcases readItems_succ_sound hi h with ⟨w, hw, rfl, rfl⟩ | ⟨u, text, a, s', as', hb, hu, hf, has, rfl⟩
    · exact ⟨'[' :: (w ++ [']']), by simp, [], .empty hw, .nil⟩
    · obtain ⟨rest, items, rfl, htail, hfs⟩ := readItems_rest_sound hi has
      cases hb with
      | @first w _ hw =>
        exact ⟨'[' :: ((w ++ u) ++ (text ++ (rest ++ [']']))), by simp, text :: items,
          .pieces (hw.append hu) rfl htail, .cons hf hfs⟩

theorem readItems_tail (hi : Recognizes item Form) {items : List (List Char)}
    (ht : Tail Eq rest items) (hf : List.Forall₂ Form items as) (hn : items.length < n)
    (r : List Char) : readItems item n false (rest ++ ']' :: r) = .ok (as, r) := by
  induction ht generalizing as n with
  | @done w hw =>
    obtain ⟨n, rfl⟩ := Nat.exists_eq_add_one_of_ne_zero (Nat.ne_of_gt hn)
    cases hf
    simp only [readItems, nextItem_done false hw, bind_ok]
    rfl
  | @next w v p rest text items hw hv hp htail ih =>
    subst hp
    obtain ⟨n, rfl⟩ := Nat.exists_eq_add_one_of_ne_zero (Nat.ne_of_gt (Nat.zero_lt_of_lt hn))
    cases hf with
    | @cons _ a _ as ha has =>
      have hend : Delimited (']' :: r) := .inr (.inl rfl)
      have hread := hi.complete p a _ ha (htail.endsNumber hend)
      have hrest := ih has (Nat.lt_of_succ_lt_succ hn)
      obtain ⟨c, t, rfl, hc⟩ := hi.opens p a ha
      have hnext := nextItem_comma_space hv hc (t ++ (rest ++ ']' :: r))
      simp only [List.append_assoc, List.cons_append] at hread hnext ⊢
      simp only [readItems, nextItem_space hw, hnext, bind_ok, hread, hrest]
      rfl

theorem readItems_space {w : List Char} (hw : Space w) (n : Nat) (first : Bool) (s : List Char) :
    readItems item n first (w ++ s) = readItems item n first s := by
  cases n with
  | zero => rfl
  | succ n => simp only [readItems, nextItem_space hw]

theorem Recognizes.array (hi : Recognizes item Form) : Recognizes (readArray item) (ListOf Form) where
  space w s hw := by simp only [readArray, hw.skipSpace_append]
  opens := by
    rintro _ _ ⟨_, h, -⟩
    obtain ⟨t, rfl⟩ := h.exists_cons
    exact ⟨_, _, rfl, rfl⟩
  complete := by
    rintro _ as r ⟨items, h, hf⟩ -
    cases h with
    | @empty w hw =>
      cases hf
      simp only [List.cons_append, List.append_assoc, readArray, skipSpace_of_opensValue (c := '[') rfl,
        readItems, List.nil_append, nextItem_done true hw, bind_ok]
      rfl
    | @pieces w p rest _ items hw hp ht =>
      subst hp
      have htail : Tail Eq ([] ++ ',' :: ([] ++ (p ++ rest))) (p :: items) :=
        .next space_nil space_nil rfl ht
      have hlen := htail.length_le
      have hread := readItems_tail (n := (w ++ (p ++ (rest ++ ']' :: r))).length + 1) hi htail hf (by
        simp only [List.nil_append, List.length_cons, List.length_append] at hlen ⊢
        omega) r
      cases hf with
      | @cons _ a _ as ha has =>
        obtain ⟨c, t, rfl, hc⟩ := hi.opens p a ha
        simp only [List.cons_append, List.append_assoc, List.nil_append] at hread ⊢
        rw [← readItems_first hc] at hread
        simp only [readArray, skipSpace_of_opensValue (c := '[') rfl, readItems_space hw, hread]
  sound s as r h := by
    obtain ⟨w, hw, hs⟩ := exists_skipSpace s
    rw [readArray] at h
    split at h
    · rename_i hk
      obtain ⟨text, he, ht⟩ := readItems_sound hi h
      rw [hk, he] at hs
      exact ⟨w, text, hs, hw, ht⟩
    · cases h

end

/-! Pairs. -/

/-- An array of two items and their values. -/
def PairOf (Left : List Char → α → Prop) (Right : List Char → β → Prop) (text : List Char)
    (p : α × β) : Prop :=
  ∃ left right, IsArray text [left, right] ∧ Left left p.1 ∧ Right right p.2

theorem endItems_sound (h : endItems s = .ok r) : ∃ w, Space w ∧ s = w ++ ']' :: r := by
  obtain ⟨w, hw, hs⟩ := exists_skipSpace s
  rw [endItems] at h
  split at h
  · cases h
  · rename_i hk
    cases h
    rw [hk] at hs
    exact ⟨w, hw, hs⟩
  · split at h <;> cases h
  · cases h

theorem endItems_complete {w : List Char} (hw : Space w) (r : List Char) :
    endItems (w ++ ']' :: r) = .ok r := by
  have hk : skipSpace (w ++ ']' :: r) = ']' :: r := hw.skipSpace_append _
  simp only [endItems, hk]

theorem Recognizes.pair {left : Reader α} {right : Reader β} {Left : List Char → α → Prop}
    {Right : List Char → β → Prop} (hl : Recognizes left Left) (hr : Recognizes right Right) :
    Recognizes (readPair left right) (PairOf Left Right) where
  space w s hw := by simp only [readPair, hw.skipSpace_append]
  opens := by
    rintro _ _ ⟨_, _, h, -⟩
    obtain ⟨t, rfl⟩ := h.exists_cons
    exact ⟨_, _, rfl, rfl⟩
  complete := by
    rintro _ ⟨a, b⟩ r ⟨left, right, h, ha, hb⟩ -
    obtain - | @⟨w, p, _, _, _, hw, rfl, ht⟩ := h
    obtain - | @⟨v, v', q, x, _, _, hv, hv', rfl, hx⟩ := ht
    obtain @⟨x, hx⟩ := hx
    have hcomma : Delimited (',' :: (v' ++ (q ++ (x ++ ']' :: r)))) := .inl rfl
    have hend : Delimited (']' :: r) := .inr (.inl rfl)
    have hfirst := hl.complete p a _ ha (hv.endsNumber_append hcomma.endsNumber)
    have hsecond := hr.complete q b _ hb (hx.endsNumber_append hend.endsNumber)
    obtain ⟨c, t, rfl, hc⟩ := hl.opens p a ha
    obtain ⟨c', t', rfl, hc'⟩ := hr.opens q b hb
    have hmore := nextItem_comma_space hv' hc' (t' ++ (x ++ ']' :: r))
    simp only [List.cons_append] at hfirst hsecond
    simp only [List.cons_append, List.append_assoc, List.nil_append]
    simp only [readPair, skipSpace_of_opensValue (c := '[') rfl, nextItem_space hw, nextItem_first hc,
      bind_ok, hfirst, nextItem_space hv, hmore, hsecond, endItems_complete hx]
    rfl
  sound s p r h := by
    obtain ⟨w, hw, hs⟩ := exists_skipSpace s
    unfold readPair at h
    dsimp only at h
    split at h
    · rename_i s₁ hk
      rw [hk] at hs
      obtain ⟨next, hnext, h⟩ := exists_of_bind_eq_ok h
      cases between_of_nextItem hnext with
      | done => cases h
      | @first v s₂ hv =>
        obtain ⟨⟨a, s₃⟩, ha, h⟩ := exists_of_bind_eq_ok h
        obtain ⟨next, hnext, h⟩ := exists_of_bind_eq_ok h
        generalize hs₃ : s₃ = t at hnext
        cases between_of_nextItem hnext with
        | done => cases h
        | @rest u u' s₄ hu hu' =>
          obtain ⟨⟨b, s₅⟩, hb, h⟩ := exists_of_bind_eq_ok h
          obtain ⟨s₆, hend, h⟩ := exists_of_bind_eq_ok h
          cases h
          obtain ⟨v', left, hs₂, hv', hleft⟩ := hl.sound _ _ _ ha
          obtain ⟨u'', right, hs₄, hu'', hright⟩ := hr.sound _ _ _ hb
          obtain ⟨x, hx, hs₅⟩ := endItems_sound hend
          refine ⟨w, '[' :: ((v ++ v') ++ (left ++ ((u ++ ',' :: ((u' ++ u'') ++ (right ++ x))) ++ [']']))),
            ?_, hw, left, right,
            .pieces (hv.append hv') rfl (.next hu (hu'.append hu'') rfl (.done hx)), hleft, hright⟩
          rw [hs₃] at hs₂
          dsimp only at hs₄ hs₅
          simp [hs, hs₂, hs₄, hs₅]
    · cases h

end OneShot.Json
