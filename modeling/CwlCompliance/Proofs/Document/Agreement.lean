import CwlCompliance.Process.Attributes
import CwlCompliance.Proofs.Lists

/-!
# Readings that agree

What a message calls the thing at fault depends on how a document is written, what is
read does not.  Two readings agree when each gives what the other gives, whatever they
say when they give nothing.

## Main definitions

* `Agree x y` — the readings `x` and `y` give the same, if they give anything.
* `Follows R x y` — whenever `x` gives something, `y` gives something related to it.

## Main results

* `Agree.bind`, `Agree.map`, `agree_mapM`, `agree_mapM_zipIdx` — agreement is kept as
  readings are put together.
* `Follows.bind`, `follows_mapM` — so is that one follows the other.
* `agree_text`, `agree_doc` — texts agree whoever owns them.
-/

namespace CwlCompliance

open Yaml

/-- Two readings give the same, if they give anything. -/
def Agree {ε ε' α : Type} (x : Except ε α) (y : Except ε' α) : Prop := ∀ a, x = .ok a ↔ y = .ok a

section Agree

variable {ε ε' ε'' α α' β : Type} {x : Except ε α} {y : Except ε' α} {z : Except ε'' α}

theorem Agree.refl (x : Except ε α) : Agree x x := fun _ => Iff.rfl

theorem Agree.of_eq {x y : Except ε α} (h : x = y) : Agree x y := h ▸ Agree.refl x

theorem Agree.symm (h : Agree x y) : Agree y x := fun a => (h a).symm

theorem Agree.trans (h : Agree x y) (h' : Agree y z) : Agree x z := fun a => (h a).trans (h' a)

theorem Agree.toOption_eq (h : Agree x y) : x.toOption = y.toOption :=
  Option.ext fun a => by rw [Reading.toOption_eq_some, Reading.toOption_eq_some, h a]

theorem agree_error (e : ε) (e' : ε') :
    Agree (.error e : Except ε α) (.error e' : Except ε' α) :=
  fun _ => iff_of_false (fun h => nomatch h) fun h => nomatch h

theorem Agree.bind {f : α → Except ε β} {g : α → Except ε' β} (h : Agree x y)
    (hf : ∀ a, Agree (f a) (g a)) : Agree (x >>= f) (y >>= g) := by
  intro b
  rw [Reading.bind_eq_ok, Reading.bind_eq_ok]
  constructor
  · rintro ⟨a, ha, hb⟩
    exact ⟨a, (h a).mp ha, (hf a b).mp hb⟩
  · rintro ⟨a, ha, hb⟩
    exact ⟨a, (h a).mpr ha, (hf a b).mpr hb⟩

theorem Agree.map {f : α → β} (h : Agree x y) : Agree (f <$> x) (f <$> y) := by
  intro b
  rw [Reading.map_eq_ok, Reading.map_eq_ok]
  exact exists_congr fun a => and_congr_left fun _ => h a

/-- Lists agree when their elements do. -/
theorem agree_mapM {l : List α} {l' : List α'} {f : α → Except ε β} {g : α' → Except ε' β}
    (h : List.Forall₂ (fun a a' => Agree (f a) (g a')) l l') : Agree (l.mapM f) (l'.mapM g) := by
  induction h with
  | nil => exact fun b => ⟨fun h => by cases h; rfl, fun h => by cases h; rfl⟩
  | cons hab _ ih =>
    rw [List.mapM_cons, List.mapM_cons]
    exact hab.bind fun b => ih.bind fun bs => fun _ => by
      constructor <;> rintro ⟨⟩ <;> rfl

/-- The same when one of the lists is numbered. -/
theorem agree_mapM_zipIdx_left {l : List α} {l' : List α'} {n : ℕ} {f : α × ℕ → Except ε β}
    {g : α' → Except ε' β}
    (h : List.Forall₂ (fun a a' => ∀ k, Agree (f (a, k)) (g a')) l l') :
    Agree ((l.zipIdx n).mapM f) (l'.mapM g) :=
  agree_mapM (forall₂_zipIdx_left h)

/-- The same when both lists are numbered alike. -/
theorem agree_mapM_zipIdx {l : List α} {l' : List α'} {n : ℕ} {f : α × ℕ → Except ε β}
    {g : α' × ℕ → Except ε' β}
    (h : List.Forall₂ (fun a a' => ∀ k, Agree (f (a, k)) (g (a', k))) l l') :
    Agree ((l.zipIdx n).mapM f) ((l'.zipIdx n).mapM g) :=
  agree_mapM (forall₂_zipIdx h n)

end Agree

section Follows

variable {ε ε' α α' β β' γ γ' : Type} {R : α → α' → Prop} {S : β → β' → Prop}
  {x : Except ε α} {y : Except ε' α'}

/-- When the first reading gives something, the second gives something related to it. -/
def Follows (R : α → α' → Prop) (x : Except ε α) (y : Except ε' α') : Prop :=
  ∀ a, x = .ok a → ∃ a', y = .ok a' ∧ R a a'

theorem follows_ok {a : α} {a' : α'} (h : R a a') :
    Follows R (.ok a : Except ε α) (.ok a' : Except ε' α') := by
  rintro _ ⟨⟩
  exact ⟨a', rfl, h⟩

theorem follows_error (e : ε) : Follows R (.error e : Except ε α) y := fun _ h => nomatch h

theorem Agree.follows {y : Except ε' α} (h : Agree x y) : Follows Eq x y :=
  fun a ha => ⟨a, (h a).mp ha, rfl⟩

theorem Follows.bind {f : α → Except ε β} {g : α' → Except ε' β'} (h : Follows R x y)
    (hf : ∀ a a', R a a' → Follows S (f a) (g a')) : Follows S (x >>= f) (y >>= g) := by
  intro b hb
  obtain ⟨a, ha, hb⟩ := Reading.bind_eq_ok.mp hb
  obtain ⟨a', ha', hrel⟩ := h a ha
  obtain ⟨b', hb', hrel'⟩ := hf a a' hrel b hb
  exact ⟨b', Reading.bind_eq_ok.mpr ⟨a', ha', hb'⟩, hrel'⟩

theorem Agree.bind_follows {y : Except ε' α} {f : α → Except ε β} {g : α → Except ε' β'}
    (h : Agree x y) (hf : ∀ a, Follows S (f a) (g a)) : Follows S (x >>= f) (y >>= g) := by
  refine h.follows.bind ?_
  rintro a _ rfl
  exact hf a

theorem Follows.map {f : α → β} {g : α' → β'} (h : Follows R x y)
    (hf : ∀ a a', R a a' → S (f a) (g a')) : Follows S (f <$> x) (g <$> y) := by
  intro b hb
  obtain ⟨a, ha, rfl⟩ := Reading.map_eq_ok.mp hb
  obtain ⟨a', ha', hrel⟩ := h a ha
  exact ⟨g a', Reading.map_eq_ok.mpr ⟨a', ha', rfl⟩, hf a a' hrel⟩

theorem follows_mapM {l : List γ} {l' : List γ'} {f : γ → Except ε α} {g : γ' → Except ε' α'}
    (h : List.Forall₂ (fun c c' => Follows R (f c) (g c')) l l') :
    Follows (List.Forall₂ R) (l.mapM f) (l'.mapM g) := by
  induction h with
  | nil => exact follows_ok .nil
  | cons hc _ ih =>
    rw [List.mapM_cons, List.mapM_cons]
    exact hc.bind fun a a' ha => ih.bind fun as as' has => follows_ok (.cons ha has)

end Follows

section Owners

variable {es es' : Entries}

/-- A text depends on what stands under its key, not on who owns it. -/
theorem agree_text {key : String} (h : es.get? key = es'.get? key) (owner owner' : String) :
    Agree (Attributes.text es key owner) (Attributes.text es' key owner') := by
  rw [Attributes.text, Attributes.text, ← h]
  generalize es.get? key = value
  match value with
  | none | some .null => exact .refl _
  | some (.bool _) | some (.number _) | some (.string _) => exact .refl _
  | some (.sequence _) | some (.mapping _) | some (.tagged _ _) => exact agree_error _ _

theorem agree_doc (h : es.get? "doc" = es'.get? "doc") (owner owner' : String) :
    Agree (Attributes.doc es owner) (Attributes.doc es' owner') := by
  have htext := agree_text h owner owner'
  rw [Attributes.doc, Attributes.doc, ← h]
  generalize es.get? "doc" = value
  match value with
  | some (.sequence items) =>
    refine Agree.map (agree_mapM ?_)
    rw [List.forall₂_same]
    intro item _
    cases item.scalarText? with
    | none => exact agree_error _ _
    | some s => exact .refl _
  | none | some .null => exact htext
  | some (.bool _) | some (.number _) | some (.string _) => exact htext
  | some (.mapping _) | some (.tagged _ _) => exact htext

end Owners

end CwlCompliance
