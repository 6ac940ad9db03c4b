import Mathlib.Data.List.Forall2
import PlaybackRules.Evaluation.Journal

/-!
# Running journaled computations

A computation that succeeds is written `⟨.ok a, events⟩`: its result, and what happened on the way.
The rules say what becomes of that form under the operations of the journal, and `forEach_eq` that a
run over a list gives the results in order and strings the events together.  A computation need not
succeed: `Yields` says what holds of its result if it does.
-/

namespace PlaybackRules.Journaled

variable {α β : Type}

/-! ## Single steps -/

@[simp] theorem pure_eq (a : α) : (pure a : Journaled α) = ⟨.ok a, []⟩ := rfl

@[simp] theorem done_eq (a : α) : done a = ⟨.ok a, []⟩ := rfl

@[simp] theorem emit_eq (events : List Event) : emit events = ⟨.ok (), events⟩ := rfl

theorem settings_ok (s : Settings) : settings (.ok s) = ⟨.ok s, []⟩ := rfl

@[simp] theorem ok_bind (a : α) (events : List Event) (f : α → Journaled β) :
    (⟨.ok a, events⟩ : Journaled α) >>= f = ⟨(f a).outcome, events ++ (f a).events⟩ := rfl

@[simp] theorem map_ok (f : α → β) (a : α) (events : List Event) :
    f <$> (⟨.ok a, events⟩ : Journaled α) = ⟨.ok (f a), events⟩ := by
  rw [← bind_pure_comp, ok_bind]
  simp

@[simp] theorem attempt_eq (x : Journaled α) : x.attempt = ⟨.ok x.outcome, x.events⟩ := rfl

/-! ## Runs over a list -/

theorem forEach_cons (f : α → Journaled β) (a : α) (as : List α) :
    forEach f (a :: as) = do return (← f a) :: (← forEach f as) := rfl

theorem forEach_eq {f : α → Journaled β} {g : α → β} {events : α → List Event} :
    ∀ {as : List α}, (∀ a ∈ as, f a = ⟨.ok (g a), events a⟩) →
      forEach f as = ⟨.ok (as.map g), as.flatMap events⟩
  | [], _ => rfl
  | a :: as, h => by
      have ha := h a (List.mem_cons_self ..)
      have has := forEach_eq fun b hb => h b (List.mem_cons_of_mem a hb)
      rw [forEach_cons, ha, has]
      simp

theorem forEach_done {f : α → Journaled β} {g : α → β} {as : List α}
    (h : ∀ a ∈ as, f a = done (g a)) : forEach f as = done (as.map g) := by
  rw [forEach_eq h, List.flatMap_eq_nil_iff.2 fun _ _ => rfl, done_eq]

theorem forEach_map {γ : Type} (f : β → Journaled γ) (g : α → β) :
    ∀ as : List α, forEach f (as.map g) = forEach (fun a => f (g a)) as
  | [] => rfl
  | a :: as => by rw [List.map_cons, forEach_cons, forEach_cons, forEach_map f g as]

theorem forEach_congr {f g : α → Journaled β} :
    ∀ {as : List α}, (∀ a ∈ as, f a = g a) → forEach f as = forEach g as
  | [], _ => rfl
  | a :: as, h => by
      rw [forEach_cons, forEach_cons, h a (List.mem_cons_self ..),
        forEach_congr fun b hb => h b (List.mem_cons_of_mem a hb)]

/-! ## Results and events -/

/-- Every result that a computation comes to has a property. -/
def Yields (P : α → Prop) (x : Journaled α) : Prop := ∀ a, x.outcome = .ok a → P a

theorem Yields.bind {P : α → Prop} {Q : β → Prop} {x : Journaled α} {f : α → Journaled β}
    (hx : x.Yields P) (hf : ∀ a, P a → (f a).Yields Q) : (x >>= f).Yields Q := by
  obtain ⟨outcome, events⟩ := x
  cases outcome with
  | error failure => exact nofun
  | ok a => exact hf a (hx a rfl)

theorem yields_done {P : α → Prop} {a : α} (h : P a) : (done a).Yields P := by
  rintro _ ⟨⟩
  exact h

theorem yields_of_any (x : Journaled α) : x.Yields fun _ => True := fun _ _ => trivial

theorem yields_forEach {R : α → β → Prop} {f : α → Journaled β} :
    ∀ {as : List α}, (∀ a ∈ as, (f a).Yields (R a)) → (forEach f as).Yields (List.Forall₂ R as)
  | [], _ => yields_done .nil
  | a :: as, h => by
      have hhead := h a (List.mem_cons_self ..)
      have htail := yields_forEach fun other hother => h other (List.mem_cons_of_mem a hother)
      rw [forEach_cons]
      exact hhead.bind fun b hb => htail.bind fun bs hbs => yields_done (.cons hb hbs)

theorem mem_bind {event : Event} {x : Journaled α} (h : event ∈ x.events) (f : α → Journaled β) :
    event ∈ (x >>= f).events := by
  obtain ⟨outcome, events⟩ := x
  cases outcome with
  | error failure => exact h
  | ok a => exact List.mem_append_left _ h

end PlaybackRules.Journaled
