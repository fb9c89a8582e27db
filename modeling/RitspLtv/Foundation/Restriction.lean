import Mathlib.Data.Set.Lattice
import RitspLtv.Foundation.Checks

/-!
# Accumulated restrictions

A restriction is described by some data and admits some subjects.  Descriptions
are read from inputs and accumulated by appending them, and an accumulated
description admits what every part of it admits.  The module derives, for any
such kind of description, what a sequence of inputs admits: the intersection of
what each of them admits alone, in whatever order they come.
-/

namespace RitspLtv.Foundation

open RitspLtv.Foundation.Checks

/-- Descriptions of restrictions on `α` that are accumulated by appending. -/
structure Restriction (σ α : Type) where
  empty : σ
  append : σ → σ → σ
  admits : σ → Set α
  admits_empty : admits empty = Set.univ
  admits_append :
    ∀ first second,
      admits (append first second) = admits first ∩ admits second

namespace Restriction

variable {σ α δ ε : Type} (kind : Restriction σ α)

/-- Read inputs one after the other and append what they describe. -/
def accumulate (read : δ → Except ε σ) (initial : σ) (inputs : List δ) :
    Except ε σ :=
  inputs.foldlM
    (fun state input => (read input).map (kind.append state)) initial

/-- The subjects admitted by a sequence of inputs that can all be read. -/
def admittedBy (read : δ → Except ε σ) (inputs : List δ) : Set α :=
  { subject |
    ∃ state,
      kind.accumulate read kind.empty inputs = .ok state ∧
        subject ∈ kind.admits state }

theorem exists_accumulate_iff
    (read : δ → Except ε σ)
    (initial : σ)
    (inputs : List δ)
    (subject : α) :
    (∃ state,
        kind.accumulate read initial inputs = .ok state ∧
          subject ∈ kind.admits state) ↔
      subject ∈ kind.admits initial ∧
        ∀ input ∈ inputs,
          ∃ part, read input = .ok part ∧ subject ∈ kind.admits part := by
  induction inputs generalizing initial with
  | nil => simp [accumulate]
  | cons input inputs induction =>
      have unfolded :
          kind.accumulate read initial (input :: inputs) =
            ((read input).map (kind.append initial) >>= fun state =>
              kind.accumulate read state inputs) :=
        List.foldlM_cons
      rw [unfolded]
      cases reading : read input with
      | error error => simp [reading, Except.map]
      | ok part =>
          have next := induction (kind.append initial part)
          rw [kind.admits_append] at next
          simp only [Except.map, ok_bind, next, List.mem_cons,
            forall_eq_or_imp, reading, Set.mem_inter_iff, Except.ok.injEq,
            exists_eq_left', and_assoc]

/-- A sequence of inputs admits what each of them admits alone. -/
theorem admittedBy_eq_iInter
    (read : δ → Except ε σ)
    (inputs : List δ) :
    kind.admittedBy read inputs =
      ⋂ input ∈ inputs, kind.admittedBy read [input] := by
  ext subject
  simp only [admittedBy, Set.mem_ofPred_eq, Set.mem_iInter,
    kind.exists_accumulate_iff, kind.admits_empty, Set.mem_univ, true_and,
    List.mem_singleton, forall_eq]

/-- The order of the inputs does not matter. -/
theorem admittedBy_perm
    (read : δ → Except ε σ)
    {first second : List δ}
    (permuted : first.Perm second) :
    kind.admittedBy read first = kind.admittedBy read second := by
  rw [kind.admittedBy_eq_iInter read first,
    kind.admittedBy_eq_iInter read second]
  simp only [permuted.mem_iff]

/-- Reading more inputs never admits more subjects. -/
theorem admittedBy_append_subset
    (read : δ → Except ε σ)
    (inputs more : List δ) :
    kind.admittedBy read (inputs ++ more) ⊆ kind.admittedBy read inputs := by
  rw [kind.admittedBy_eq_iInter read (inputs ++ more),
    kind.admittedBy_eq_iInter read inputs]
  apply Set.biInter_subset_biInter_left
  intro input member
  exact List.mem_append_left more member

end Restriction

end RitspLtv.Foundation
