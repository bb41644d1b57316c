import ContentFilter.Proofs.Files.Growth

namespace ContentFilter

namespace Path

theorem trim_backwards_cases (s : Text) :
    trimBackwards s = ['/'] ∨ '/' :: trimBackwards s <:+ '/' :: s := by
  induction s using trimBackwards.induct with
  | case1 => exact Or.inl rfl
  | case2 r some_more ih =>
      rw [trimBackwards.eq_2 r some_more]
      exact ih.imp_right fun left => left.trans (List.suffix_cons '/' ('/' :: r))
  | case3 => exact Or.inl rfl
  | case4 r some_more ih =>
      rw [trimBackwards.eq_4 r some_more]
      exact ih.imp_right fun left => left.trans (List.suffix_append ['/', '.'] ('/' :: r))
  | case5 r one two three four =>
      rw [trimBackwards.eq_5 r one two three four]
      exact Or.inr (List.suffix_refl _)

theorem parent_some (path parent : Text) (named : parent? path = some parent) :
    parent = [] ∨ parent = ['/'] ∨ parent ++ ['/'] <+: path := by
  rw [parent?] at named
  generalize trimmed : trimBackwards path.reverse = backwards at named
  split at named
  · cases named
  · cases named
  · rename_i not_root
    obtain rfl := Option.some.inj named
    have within : backwards <:+ path.reverse := by
      rcases trim_backwards_cases path.reverse with root | left
      · exact absurd (trimmed ▸ root) not_root
      · rw [trimmed] at left
        have shorter : backwards.length ≤ path.reverse.length := by simpa using left.length_le
        exact List.suffix_of_suffix_length_le ((List.suffix_cons _ _).trans left)
          (List.suffix_cons _ _) shorter
    -- backwards, the directory is what follows the last part up to a slash
    rcases directory : backwards.dropWhile (· != '/') with _ | ⟨c, up⟩
    · exact Or.inl rfl
    · have slash : c = '/' := by
        have first := List.head?_dropWhile_not (· != '/') backwards
        rw [directory] at first
        simpa using first
      subst slash
      have above : '/' :: up <:+ path.reverse :=
        (directory ▸ List.dropWhile_suffix (· != '/')).trans within
      cases up with
      | nil => exact Or.inr (Or.inl rfl)
      | cons d up =>
          rw [trimBackwards.eq_2 (d :: up) (List.cons_ne_nil d up)]
          rcases trim_backwards_cases (d :: up) with root | left
          · exact Or.inr (Or.inl (by rw [root]; rfl))
          · refine Or.inr (Or.inr ?_)
            have turned := List.reverse_prefix.mpr (left.trans above)
            simpa using turned

theorem byte_length_append (front back : Text) :
    byteLength (front ++ back) = byteLength front + byteLength back := by
  unfold byteLength
  induction front with
  | nil => simp
  | cons c front ih => simp [ih, Nat.add_assoc]

end Path

namespace FileTree

theorem create_from_found (t : FileTree) (made : Bool) (place target : Place) (front : List Text)
    (part : Text) (rest : List Text)
    (led : (front ++ part :: rest).foldlM t.step place = .ok target) :
    t.createFrom made place front = (t, .ok ()) := by
  induction front generalizing place with
  | nil => rfl
  | cons first front ih =>
      rw [List.cons_append, List.foldlM_cons] at led
      rw [createFrom]
      cases stepped : t.step place first with
      | error fault =>
          rw [stepped] at led
          cases led
      | ok next =>
          rw [stepped] at led
          change (front ++ part :: rest).foldlM t.step next = .ok target at led
          have standing : t.entryAt? next = some .directory := by
            obtain ⟨second, others, some_more⟩ : ∃ second others,
                front ++ part :: rest = second :: others :=
              List.exists_cons_of_ne_nil (by simp)
            rw [some_more, List.foldlM_cons] at led
            cases onward : t.step next second with
            | error fault =>
                rw [onward] at led
                cases led
            | ok _ => exact step_ok t next _ second onward
          simp only [standing]
          exact ih next led

theorem fault_of_front (front rest : Text) (nonempty : front ≠ [])
    (sound : faultOf? (front ++ rest) = none) : faultOf? front = none := by
  have shorter := Path.byte_length_append front rest
  unfold faultOf? at sound ⊢
  split at sound
  · cases sound
  · rename_i no_null
    split at sound
    · cases sound
    · split at sound
      · cases sound
      · rename_i short
        have none_in_front : ¬ front.contains '\x00' = true := by
          intro null
          exact no_null (by simp_all)
        rw [if_neg none_in_front, if_neg (by simpa using nonempty), if_neg (by omega)]

theorem create_parent_found (t : FileTree) (path : Text) (place : Place)
    (led : t.locate path = .ok place) : t.createParent path = (t, .ok ()) := by
  rw [createParent]
  cases named : (Path.parent? path).filter (!·.isEmpty) with
  | none => rfl
  | some parent =>
      obtain ⟨found, filled⟩ := Option.filter_eq_some_iff.mp named
      have nonempty : parent ≠ [] := by simpa using filled
      have standing : t.createDirectories parent = (t, .ok ()) := by
        rcases Path.parent_some path parent found with empty | rfl | ⟨rest, rfl⟩
        · exact absurd empty nonempty
        · rfl
        · rw [List.append_assoc, List.singleton_append, locate] at led
          split at led
          · cases led
          · rename_i sound
            have absolute : Path.isAbsolute (parent ++ '/' :: rest) = Path.isAbsolute parent := by
              rw [Path.isAbsolute, Path.isAbsolute, List.head?_append_of_ne_nil parent nonempty]
            obtain ⟨part, others, cut⟩ := List.exists_cons_of_ne_nil
              (Text.split_where_ne_nil (· == '/') rest)
            rw [Path.parts, Text.split_all_parted, Text.splitAll, cut, origin, absolute] at led
            rw [createDirectories, if_neg (by simpa using nonempty),
              fault_of_front parent _ nonempty sound]
            exact create_from_found t _ _ place _ part others led
      dsimp only
      rw [standing]
      rfl

theorem locate_slash (t : FileTree) (front : Text) (place : Place)
    (led : t.locate (front ++ ['/']) = .ok place) : t.entryAt? place = some .directory := by
  rw [locate] at led
  split at led
  · cases led
  · rw [Path.parts, Text.split_all_parted, List.foldlM_append] at led
    generalize List.foldlM t.step _ (Text.splitAll '/' front) = reached at led
    cases reached with
    | error fault => cases led
    | ok above =>
        -- the part behind the slash is empty: one more step, on the spot
        have last : t.step above [] = .ok place := by
          change (t.step above [] >>= fun next => .ok next) = .ok place at led
          cases stepped : t.step above [] with
          | error fault =>
              rw [stepped] at led
              cases led
          | ok next =>
              rw [stepped] at led
              exact led
        have here := step_ok t above place [] last
        rw [step, here] at last
        have same : above = place := by simpa [Path.byteLength, maxNameBytes] using last
        rwa [← same]

theorem locate_file_of_read (t : FileTree) (path : Text) (bytes : List UInt8)
    (read : t.read path = .ok bytes) :
    ∃ place, t.locateFile path = .ok place ∧ t.entryAt? place = some (.file bytes) := by
  obtain ⟨place, led, present⟩ := (read_ok_iff t path bytes).mp read
  have unslashed : path.getLast? ≠ some '/' := by
    intro last
    obtain ⟨front, rfl⟩ := List.getLast?_eq_some_iff.mp last
    rw [locate_slash t front place led] at present
    cases present
  refine ⟨place, ?_, present⟩
  have writable : ¬ (path.getLast? = some '/' ∨ t.entryAt? place = some .directory) := by
    simp [unslashed, present]
  rw [locateFile, bare_path path unslashed]
  simp only [ite_self, led, if_neg writable]

end FileTree

end ContentFilter
