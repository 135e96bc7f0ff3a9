import TenantGateway.Proofs.Settings.Variables

/-! Overriding settings touches exactly what is named. A variable that is set puts its own value in
its own field and reaches no other; the first that does not fit stops the rest. -/
namespace TenantGateway.Settings

/-- The variable is not set, or its text gives a value. -/
def Suits (lookup : String → Option String) (v : Variable) : Prop :=
  ∀ raw, lookup v.name = some raw → v.Fits raw

/-- The settings `t` are `s` with just the variables `vs` taken over. -/
structure Applied (lookup : String → Option String) (vs : List Variable) (s t : Settings) :
    Prop where
  own : ∀ v ∈ vs, ∀ raw x, lookup v.name = some raw → v.Means raw x → t.field v = v.kept x
  unset : ∀ v, lookup v.name = none → t.field v = s.field v
  beyond : ∀ v, v ∉ vs → t.field v = s.field v
  rest : t.rest = s.rest

/-- The variable is the first that does not suit, and `e` says why. -/
structure Stops (lookup : String → Option String) (before : List Variable) (v : Variable)
    (after : List Variable) (e : SettingsError) : Prop where
  order : Variable.all = before ++ v :: after
  suits : ∀ w ∈ before, Suits lookup w
  unfit : ¬ Suits lookup v
  blamed : ∃ raw reason, lookup v.name = some raw ∧ v.read raw = .error reason ∧
    e = .variable v.name reason

/-- What an environment does to settings. -/
structure Precise (lookup : String → Option String) (s : Settings)
    (result : Except SettingsError Unit × Settings) : Prop where
  ok_iff : result.1 = .ok () ↔ ∀ v, Suits lookup v
  applied : result.1 = .ok () → Applied lookup Variable.all s result.2
  /-- Neither the old settings nor the other variables have a say in a field. -/
  independent : result.1 = .ok () → ∀ lookup' s', (override lookup' s').1 = .ok () →
    ∀ v, lookup v.name ≠ none → lookup' v.name = lookup v.name →
      (override lookup' s').2.field v = result.2.field v
  stopped : ∀ e, result.1 = .error e → ∃ before v after,
    Stops lookup before v after e ∧ Applied lookup before s result.2
  again : result.1 = .ok () → override lookup result.2 = (.ok (), result.2)
  idle : (∀ v : Variable, lookup v.name = none) → result = (.ok (), s)

section

variable {lookup : String → Option String} {s t : Settings} {v : Variable} {vs : List Variable}

-- The value that an environment gives to a variable.
private def given? (lookup : String → Option String) (v : Variable) : Option v.Value :=
  (lookup v.name).bind fun raw => (v.read raw).toOption

-- The settings with one variable taken over.
private def taken (lookup : String → Option String) (s : Settings) (v : Variable) : Settings :=
  (given? lookup v).elim s (v.assign s)

private theorem given?_of_unset (h : lookup v.name = none) : given? lookup v = none := by
  rw [given?, h, Option.bind_none]

private theorem given?_of_means {raw : String} {x : v.Value} (h : lookup v.name = some raw)
    (hx : v.Means raw x) : given? lookup v = some x := by
  rw [given?, h, Option.bind_some, Variable.read_eq_ok_iff.mpr hx]
  rfl

private theorem overrideBy_cons_of_suits (h : Suits lookup v) :
    overrideBy lookup (v :: vs) s = overrideBy lookup vs (taken lookup s v) := by
  rw [overrideBy, taken]
  cases hraw : lookup v.name with
  | none => rw [given?_of_unset hraw, Option.elim_none]
  | some raw =>
    obtain ⟨x, hx⟩ := h raw hraw
    rw [given?_of_means hraw hx, Option.elim_some]
    simp only [Variable.read_eq_ok_iff.mpr hx]

private theorem overrideBy_append {before : List Variable} (h : ∀ v ∈ before, Suits lookup v) :
    overrideBy lookup (before ++ vs) s = overrideBy lookup vs (before.foldl (taken lookup) s) := by
  induction before generalizing s with
  | nil => rfl
  | cons v before ih =>
    rw [List.forall_mem_cons] at h
    rw [List.cons_append, overrideBy_cons_of_suits h.1, ih h.2, List.foldl_cons]

private theorem overrideBy_cons_of_not_suits (h : ¬ Suits lookup v) (vs : List Variable)
    (s : Settings) :
    ∃ raw reason, lookup v.name = some raw ∧ v.read raw = .error reason ∧
      overrideBy lookup (v :: vs) s = (.error (.variable v.name reason), s) := by
  simp only [Suits, not_forall] at h
  obtain ⟨raw, hraw, hfits⟩ := h
  rw [overrideBy, hraw]
  cases hread : v.read raw with
  | ok x => exact absurd ⟨x, Variable.read_eq_ok_iff.mp hread⟩ hfits
  | error reason => exact ⟨raw, reason, rfl, hread, by simp only [hread]⟩

private theorem overrideBy_of_suits (h : ∀ v ∈ vs, Suits lookup v) :
    overrideBy lookup vs s = (.ok (), vs.foldl (taken lookup) s) := by
  have hall : overrideBy lookup (vs ++ []) s = overrideBy lookup [] (vs.foldl (taken lookup) s) :=
    overrideBy_append h
  rwa [List.append_nil] at hall

private theorem suits_or_first (lookup : String → Option String) (vs : List Variable) :
    (∀ v ∈ vs, Suits lookup v) ∨ ∃ before v after, vs = before ++ v :: after ∧
      (∀ w ∈ before, Suits lookup w) ∧ ¬ Suits lookup v := by
  induction vs with
  | nil => exact .inl fun _ h => absurd h List.not_mem_nil
  | cons v vs ih =>
    by_cases hv : Suits lookup v
    · rcases ih with h | ⟨before, w, after, rfl, hbefore, hw⟩
      · exact .inl (List.forall_mem_cons.mpr ⟨hv, h⟩)
      · exact .inr ⟨v :: before, w, after, rfl, List.forall_mem_cons.mpr ⟨hv, hbefore⟩, hw⟩
    · exact .inr ⟨[], v, vs, rfl, fun _ h => absurd h List.not_mem_nil, hv⟩

private theorem field_taken_of_ne {w : Variable} (h : w ≠ v) :
    (taken lookup s v).field w = s.field w := by
  rw [taken]
  cases given? lookup v with
  | none => rfl
  | some x => exact field_assign_of_ne h s x

private theorem field_taken_of_unset {w : Variable} (h : lookup w.name = none) :
    (taken lookup s v).field w = s.field w := by
  by_cases hw : w = v
  · rw [taken, given?_of_unset (hw ▸ h), Option.elim_none]
  · exact field_taken_of_ne hw

private theorem rest_taken : (taken lookup s v).rest = s.rest := by
  rw [taken]
  cases given? lookup v with
  | none => rfl
  | some x => exact rest_assign s v x

private theorem Applied.cons (hv : v ∉ vs) (h : Applied lookup vs (taken lookup s v) t) :
    Applied lookup (v :: vs) s t where
  own := by
    rw [List.forall_mem_cons]
    refine ⟨fun raw x hraw hx => ?_, h.own⟩
    rw [h.beyond v hv, taken, given?_of_means hraw hx, Option.elim_some, field_assign_self]
  unset w hw := (h.unset w hw).trans (field_taken_of_unset hw)
  beyond w hw := by
    rw [List.mem_cons, not_or] at hw
    exact (h.beyond w hw.2).trans (field_taken_of_ne hw.1)
  rest := h.rest.trans rest_taken

private theorem applied_foldl (h : vs.Nodup) :
    Applied lookup vs s (vs.foldl (taken lookup) s) := by
  induction vs generalizing s with
  | nil =>
    exact {
      own := fun _ h => absurd h List.not_mem_nil
      unset := fun _ _ => rfl
      beyond := fun _ _ => rfl
      rest := rfl }
  | cons v vs ih =>
    rw [List.nodup_cons] at h
    exact (ih h.2).cons h.1

private theorem Applied.taken_eq (h : Applied lookup vs s t) (hv : v ∈ vs) :
    taken lookup t v = t := by
  rw [taken, given?]
  cases hraw : lookup v.name with
  | none => rfl
  | some raw =>
    rw [Option.bind_some]
    cases hread : v.read raw with
    | error reason => rfl
    | ok x => exact assign_eq_self (h.own v hv raw x hraw (Variable.read_eq_ok_iff.mp hread))

private theorem Applied.foldl_eq (h : Applied lookup vs s t) {ws : List Variable}
    (hws : ∀ w ∈ ws, w ∈ vs) : ws.foldl (taken lookup) t = t := by
  induction ws with
  | nil => rfl
  | cons w ws ih =>
    rw [List.forall_mem_cons] at hws
    rw [List.foldl_cons, h.taken_eq hws.1, ih hws.2]

private theorem mem_all (v : Variable) : v ∈ Variable.all := by
  cases v <;> decide

private theorem nodup_all : Variable.all.Nodup := by decide

private theorem override_of_suits (h : ∀ v, Suits lookup v) :
    override lookup s = (.ok (), Variable.all.foldl (taken lookup) s) :=
  overrideBy_of_suits fun v _ => h v

private theorem suits_of_override_ok (h : (override lookup s).1 = .ok ()) :
    ∀ v, Suits lookup v := by
  rcases suits_or_first lookup Variable.all with hall | ⟨before, w, after, horder, hbefore, hw⟩
  · exact fun v => hall v (mem_all v)
  · obtain ⟨raw, reason, -, -, hstop⟩ := overrideBy_cons_of_not_suits hw after
      (before.foldl (taken lookup) s)
    rw [override, horder, overrideBy_append hbefore, hstop] at h
    exact absurd h (by simp)

private theorem applied_of_override_ok (h : (override lookup s).1 = .ok ()) :
    Applied lookup Variable.all s (override lookup s).2 := by
  rw [override_of_suits (suits_of_override_ok h)]
  exact applied_foldl nodup_all

private theorem exists_stops {e : SettingsError} (h : (override lookup s).1 = .error e) :
    ∃ before v after, Stops lookup before v after e ∧
      Applied lookup before s (override lookup s).2 := by
  rcases suits_or_first lookup Variable.all with hall | ⟨before, v, after, horder, hbefore, hv⟩
  · rw [override, overrideBy_of_suits hall] at h
    exact absurd h (by simp)
  · obtain ⟨raw, reason, hraw, hread, hstop⟩ := overrideBy_cons_of_not_suits hv after
      (before.foldl (taken lookup) s)
    have hresult : override lookup s =
        (.error (.variable v.name reason), before.foldl (taken lookup) s) := by
      rw [override, horder, overrideBy_append hbefore, hstop]
    rw [hresult] at h ⊢
    have hnodup : before.Nodup :=
      (List.nodup_append.mp (horder ▸ nodup_all)).1
    exact ⟨before, v, after,
      ⟨horder, hbefore, hv, raw, reason, hraw, hread, (Except.error.inj h).symm⟩,
      applied_foldl hnodup⟩

private theorem Applied.field_eq {lookup' : String → Option String} {s' t' : Settings}
    (h : Applied lookup vs s t) (h' : Applied lookup' vs s' t') (hv : v ∈ vs)
    (hsuits : Suits lookup v) (hset : lookup v.name ≠ none)
    (hsame : lookup' v.name = lookup v.name) : t'.field v = t.field v := by
  obtain ⟨raw, hraw⟩ := Option.ne_none_iff_exists'.mp hset
  obtain ⟨x, hx⟩ := hsuits raw hraw
  rw [h.own v hv raw x hraw hx, h'.own v hv raw x (hsame.trans hraw) hx]

end

/-- An environment touches exactly what it names, up to the first text that does not fit. -/
theorem precise_override (lookup : String → Option String) (s : Settings) :
    Precise lookup s (override lookup s) where
  ok_iff := ⟨suits_of_override_ok, fun h => by rw [override_of_suits h]⟩
  applied := applied_of_override_ok
  independent h lookup' s' h' v hset hsame :=
    (applied_of_override_ok h).field_eq (applied_of_override_ok h') (mem_all v)
      (suits_of_override_ok h v) hset hsame
  stopped _ h := exists_stops h
  again h := by
    rw [override_of_suits (suits_of_override_ok h),
      (applied_of_override_ok h).foldl_eq fun _ hv => hv]
  idle h := by
    have hsuits : ∀ v, Suits lookup v := fun v raw hraw => nomatch (h v).symm.trans hraw
    have hok : (override lookup s).1 = .ok () := by rw [override_of_suits hsuits]
    have happlied := applied_of_override_ok hok
    exact Prod.ext hok (eq_of_field_eq (fun v => happlied.unset v (h v)) happlied.rest)

/-- The topic stays, since the size before it is no number. -/
example (s : Settings) :
    override (fun name =>
      if name = "TOLLGATE_EVENT_BATCH_SIZE" then some "lots"
      else if name = "TOLLGATE_KAFKA_TOPIC" then some "usage" else none) s =
    (.error (.variable "TOLLGATE_EVENT_BATCH_SIZE" "invalid digit found in string"), s) := by
  rfl

end TenantGateway.Settings
