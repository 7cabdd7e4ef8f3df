import BiometricSession.Proofs.World.Linked

/-!
# Links and their owners

Whoever removes links from tokens, a link stays the property of the session that it was
made for.  A token gives out every number once, so that an entry under the number that a
session holds is the session's own; and a session that holds a link is listed by the
token of that link only.
-/

namespace BiometricSession.World

variable {Action : Type} {world : World Action} {position token link : Nat}

/-- The link of a number at a token can only be that of the session at a position, and no
other token lists that session. -/
structure Owns (world : World Action) (position token link : Nat) : Prop where
  only : ∀ other, world.Lists other position → other = token
  own : ∀ state entry, world.tokens[token]? = some state → entry ∈ state.links →
    entry.number = link → entry.recipient = position
  issued : ∀ state, world.tokens[token]? = some state → link < state.nextLink

/-- Every session owns the link that it holds. -/
def Rightful (world : World Action) : Prop :=
  ∀ position monitor token link, world.monitor? position = some monitor →
    monitor.session.Holds token link → world.Owns position token link

/-! ## Tokens that lose links -/

/-- Between two moments, tokens have lost links at most. -/
def Sheds (before after : List (ClientToken Nat)) : Prop :=
  ∀ (token : Nat) (state : ClientToken Nat), after[token]? = some state →
    ∃ earlier, before[token]? = some earlier ∧ state.links ⊆ earlier.links ∧
      state.nextLink = earlier.nextLink

theorem Sheds.refl (tokens : List (ClientToken Nat)) : Sheds tokens tokens :=
  fun _ state known => ⟨state, known, List.Subset.refl _, rfl⟩

theorem Sheds.set {tokens : List (ClientToken Nat)} {state fewer : ClientToken Nat}
    (known : tokens[token]? = some state) (links : fewer.links ⊆ state.links)
    (next : fewer.nextLink = state.nextLink) : Sheds tokens (tokens.set token fewer) := by
  intro other found isFound
  rw [getElem?_set_known known] at isFound
  split at isFound
  · rename_i here
    obtain rfl := Option.some.inj isFound
    exact ⟨state, here ▸ known, links, next⟩
  · exact ⟨found, isFound, List.Subset.refl _, rfl⟩

theorem Sheds.released (world : World Action) (session : Session Action) :
    Sheds world.tokens (world.released session) := by
  intro token state known
  by_cases holds : ∃ link, session.Holds token link
  · obtain ⟨link, holds⟩ := holds
    rw [released_of_holds holds] at known
    obtain ⟨earlier, isEarlier, rfl⟩ := Option.map_eq_some_iff.mp known
    exact ⟨earlier, isEarlier, List.filter_subset_self _, rfl⟩
  · rw [released_of_not_holds (not_exists.mp holds)] at known
    exact ⟨state, known, List.Subset.refl _, rfl⟩

theorem lists_of_sheds {after : World Action} (sheds : Sheds world.tokens after.tokens)
    (listed : after.Lists token position) : world.Lists token position := by
  obtain ⟨state, known, isListed⟩ := listed
  obtain ⟨earlier, isEarlier, fewer, _⟩ := sheds token state known
  exact ⟨earlier, isEarlier, List.map_subset _ fewer isListed⟩

theorem Owns.of_sheds {after : World Action} (owns : world.Owns position token link)
    (sheds : Sheds world.tokens after.tokens) : after.Owns position token link := by
  refine ⟨fun other listed => owns.only other (lists_of_sheds sheds listed), ?_, ?_⟩
  · intro state entry known listed number
    obtain ⟨earlier, isEarlier, fewer, _⟩ := sheds token state known
    exact owns.own earlier entry isEarlier (fewer listed) number
  · intro state known
    obtain ⟨earlier, isEarlier, _, next⟩ := sheds token state known
    rw [next]
    exact owns.issued earlier isEarlier

/-! ## Making a session -/

section Making

variable {given : Option Nat} {linked : Option (Nat × Except TokenError Nat)}
  {tokens : List (ClientToken Nat)} {after : World Action}

/-- A token is as before or lists one more session, which is the new one. -/
theorem Making.known (making : Making world given linked tokens) {state : ClientToken Nat}
    (known : tokens[token]? = some state) :
    world.tokens[token]? = some state ∨
      ∃ before, world.tokens[token]? = some before ∧
        state = before.joined world.monitors.length := by
  cases making with
  | unlinked | refused => exact .inl known
  | @linked number before isGiven isBefore alive =>
      rw [getElem?_set_known isBefore] at known
      split at known
      · rename_i here
        exact .inr ⟨before, here ▸ isBefore, (Option.some.inj known).symm⟩
      · exact .inl known

/-- A session that was there before still owns its link when another is made. -/
theorem Making.owns_old (making : Making world given linked tokens)
    (sameTokens : after.tokens = tokens) (old : position ≠ world.monitors.length)
    (owns : world.Owns position token link) : after.Owns position token link := by
  refine ⟨?_, ?_, ?_⟩
  · intro other listed
    rcases (making.lists sameTokens).mp listed with before | ⟨isNew, _⟩
    · exact owns.only other before
    · exact absurd isNew old
  · intro state entry known listed number
    rw [sameTokens] at known
    rcases making.known known with same | ⟨before, isBefore, rfl⟩
    · exact owns.own state entry same listed number
    · rcases List.mem_append.mp listed with past | isNew
      · exact owns.own before entry isBefore past number
      · obtain rfl := List.mem_singleton.mp isNew
        exact absurd number (Nat.ne_of_gt (owns.issued before isBefore))
  · intro state known
    rw [sameTokens] at known
    rcases making.known known with same | ⟨before, isBefore, rfl⟩
    · exact owns.issued state same
    · exact Nat.lt_succ_of_lt (owns.issued before isBefore)

/-- A new session owns its link: the number is fresh, and so is the session. -/
theorem Making.owns_new (making : Making world given linked tokens) (tidy : world.Tidy)
    (sameTokens : after.tokens = tokens) (isLinked : linked = some (token, .ok link)) :
    after.Owns world.monitors.length token link := by
  have lists (other : Nat) : after.Lists other world.monitors.length ↔ _ :=
    making.lists sameTokens
  cases making with
  | unlinked | refused => simp at isLinked
  | @linked number state isGiven known alive =>
      simp only [Option.some.injEq, Prod.mk.injEq, Except.ok.injEq] at isLinked
      obtain ⟨rfl, rfl⟩ := isLinked
      have joined : after.tokens[number]? = some (state.joined world.monitors.length) := by
        rw [sameTokens, getElem?_set_known known, if_pos rfl]
      refine ⟨?_, ?_, ?_⟩
      · intro other listed
        rcases (lists other).mp listed with ⟨before, isBefore, already⟩ | ⟨_, isToken, _⟩
        · have earlier := (tidy other before isBefore).recipients_lt _ already
          exact absurd earlier (Nat.lt_irrefl _)
        · exact Option.some.inj (isToken.symm.trans isGiven)
      · intro found entry isFound listed isNumber
        obtain rfl := Option.some.inj (joined.symm.trans isFound)
        rcases List.mem_append.mp listed with past | isNew
        · exact absurd isNumber (Nat.ne_of_lt ((tidy number state known).numbered entry past))
        · obtain rfl := List.mem_singleton.mp isNew
          rfl
      · intro found isFound
        obtain rfl := Option.some.inj (joined.symm.trans isFound)
        exact Nat.lt_succ_self _

end Making

section Action

variable [HardwareAction Action] [ScopedAction Action]

/-- Only the making of a session adds a link to a token. -/
theorem sheds_obey (world : World Action) (command : WorldCommand Action)
    (noMake : ∀ setting action token listener,
      command ≠ .make setting action token listener) :
    Sheds world.tokens (world.obey command).world.tokens := by
  have died (token : Nat) : Sheds world.tokens (world.notifyDeath token).world.tokens := by
    rcases notifyDeath_cases world token with ⟨state, known, _, told⟩ | ⟨_, nothing⟩
    · rw [told, tokens_tellAll]
      exact .set known (List.nil_subset _) rfl
    · rw [nothing]
      exact .refl _
  cases command with
  | make setting action token listener => exact absurd rfl (noMake _ _ _ _)
  | perform number operation =>
      cases found : world.monitor? number with
      | none => simpa [obey, found] using .refl world.tokens
      | some monitor =>
          rw [obey_perform found, WorldStep.map_world, tokens_perform]
          split
          · exact .released world monitor.session
          · exact .refl _
  | drop number =>
      cases found : world.monitor? number with
      | none => simpa [obey, found] using .refl world.tokens
      | some monitor =>
          rw [obey_drop found, WorldStep.map_world, tokens_drop]
          exact .released world monitor.session
  | notifyDeath token =>
      rw [(obey_notifyDeath world token).1]
      exact died token
  | watch processes token process =>
      have watched := obey_watch world processes token process
      split at watched
      · rw [watched.1]
        exact died token
      · rw [watched.1]
        exact .refl _
  | unlink token link =>
      cases known : world.tokens[token]? with
      | none => simpa [obey, known] using .refl world.tokens
      | some state =>
          simp only [obey, known, World.unlink]
          rcases state.unlink_cases link with done | ⟨failed, _⟩
          · rw [done]
            exact .set known (List.filter_subset_self _) rfl
          · rw [failed]
            exact .refl _
  | setHal hal => exact .refl _
  | setPreference key user value => exact .refl _
  | setListener number listener =>
      cases found : world.monitor? number with
      | none => simpa [obey, found] using .refl world.tokens
      | some monitor => simpa [obey, found] using .refl world.tokens

theorem Rightful.obey (rightful : world.Rightful) (sound : world.Sound) (tidy : world.Tidy)
    (command : WorldCommand Action) : (world.obey command).world.Rightful := by
  by_cases makes : ∃ setting action token listener,
      command = .make setting action token listener
  · obtain ⟨setting, action, given, listener, rfl⟩ := makes
    obtain ⟨linked, tokens, making, made⟩ := making world setting action given listener
    intro position monitor token link found holds
    simp only [World.obey, WorldStep.map_world, made] at found ⊢
    rw [monitor?_append world _ rfl] at found
    split at found
    · rename_i isNew
      obtain rfl := Option.some.inj found
      exact isNew ▸ making.owns_new tidy rfl (Session.holds_make.mp holds)
    · rename_i old
      exact making.owns_old rfl (Ne.symm old) (rightful position monitor token link found holds)
  -- any other command adds no link to a token, and a session that holds a link after it
  -- held it before
  intro position monitor token link found holds
  have sheds := sheds_obey world command fun setting action token listener same =>
    makes ⟨setting, action, token, listener, same⟩
  rcases obey_cases world command position with made | rfl | follows
  · exact absurd made makes
  · cases present : world.monitor? position with
    | none => simp [World.obey, present] at found
    | some leaving =>
        rw [obey_drop present, WorldStep.map_world, World.drop,
          monitor?_settle (lt_length_of_monitor? present), if_pos rfl] at found
        cases found
  · cases present : world.monitor? position with
    | none => simp [(follows.absent present).1] at found
    | some before =>
        obtain ⟨later, _, isLater, _, course, _⟩ := follows.present before present
        obtain rfl := Option.some.inj (isLater.symm.trans found)
        have held := course.holds_of_holds (sound position before present) holds
        exact (rightful position before token link present held).of_sheds sheds

theorem Rightful.after (rightful : world.Rightful) (sound : world.Sound) (tidy : world.Tidy)
    (commands : List (WorldCommand Action)) : (world.after commands).Rightful := by
  induction commands generalizing world with
  | nil => exact rightful
  | cons command commands ih =>
      exact ih (rightful.obey sound tidy command) (sound.obey command) (tidy.obey command)

omit [HardwareAction Action] [ScopedAction Action] in
theorem rightful_fresh (processes : List (Option UInt32)) :
    (fresh processes : World Action).Rightful := by
  intro position monitor token link found
  simp [fresh, monitor?] at found

end Action

end BiometricSession.World
