import Mathlib.Algebra.GroupWithZero.Nat
import Mathlib.Data.List.Perm.Basic
import WalletScreens.Proofs.Scope.Script

/-!
Components composed of others.

A composite goes back and forth between work of its own and the drawing of others, and may use each
time what it has been given so far.  The first work that fails, wherever it is in the tree, ends all
of it.  So what counts is the order in which the works are done.  In the order of the tree the works
of a node come before those of the nodes below it, even if they are done after them.
-/

namespace WalletScreens.Scope

open Screen Theme

/-- A work that is done while something is drawn: how many toggles it asks for until it is through
or fails, and what it gives. -/
structure Work where
  requests : Nat
  drawn : Except RenderFault String

namespace Work

def fault? (work : Work) : Option RenderFault :=
  match work.drawn with
  | .error fault => some fault
  | .ok _ => none

/-- The text that is given.  A work that fails counts as one that draws nothing. -/
def text (work : Work) : String :=
  match work.drawn with
  | .error _ => ""
  | .ok text => text

/-- The fault of the first work that fails. -/
def firstFault? (works : List Work) : Option RenderFault :=
  works.findSome? fault?

/-- The requests of the works, up to the first one that fails. -/
def requestsToFault : List Work → Nat
  | [] => 0
  | work :: rest => work.requests + if work.fault?.isSome then 0 else requestsToFault rest

/-- What works give that make up a text, unless one of them fails. -/
def outcome (works : List Work) (text : String) : Except RenderFault String :=
  match firstFault? works with
  | some fault => .error fault
  | none => .ok text

theorem fault?_eq_none_iff {work : Work} : work.fault? = none ↔ work.drawn.isOk = true := by
  unfold fault?
  cases work.drawn <;> simp [Except.isOk, Except.toBool]

theorem fault?_eq_some_iff {work : Work} {fault : RenderFault} :
    work.fault? = some fault ↔ work.drawn = .error fault := by
  unfold fault?
  cases work.drawn <;> simp

theorem firstFault?_cons (work : Work) (rest : List Work) :
    firstFault? (work :: rest) = work.fault?.or (firstFault? rest) := by
  rw [firstFault?, List.findSome?_cons]
  cases work.fault? <;> rfl

theorem firstFault?_append (first second : List Work) :
    firstFault? (first ++ second) = (firstFault? first).or (firstFault? second) :=
  List.findSome?_append

theorem firstFault?_eq_none_iff {works : List Work} :
    firstFault? works = none ↔ ∀ work ∈ works, work.drawn.isOk = true := by
  rw [firstFault?, List.findSome?_eq_none_iff]
  exact forall₂_congr fun work _ => fault?_eq_none_iff

theorem requestsToFault_append (first second : List Work) :
    requestsToFault (first ++ second) =
      requestsToFault first +
        if (firstFault? first).isSome then 0 else requestsToFault second := by
  induction first with
  | nil => simp [requestsToFault, firstFault?]
  | cons work rest ih =>
      rw [List.cons_append, requestsToFault, requestsToFault, ih, firstFault?_cons]
      cases work.fault? with
      | none => exact (Nat.add_assoc _ _ _).symm
      | some fault => simp

/-- Where no work fails, all requests are made. -/
theorem requestsToFault_of_drawn {works : List Work}
    (drawn : ∀ work ∈ works, work.drawn.isOk = true) :
    requestsToFault works = (works.map (·.requests)).sum := by
  induction works with
  | nil => rfl
  | cons work rest ih =>
      rw [List.forall_mem_cons] at drawn
      rw [requestsToFault, fault?_eq_none_iff.mpr drawn.1, ih drawn.2]
      simp

section

variable {before : List Work} {failing : Work} {fault : RenderFault}
  (drawn : ∀ work ∈ before, work.drawn.isOk = true) (failed : failing.drawn = .error fault)
  (after : List Work)
include drawn failed

theorem firstFault?_of_fault : firstFault? (before ++ failing :: after) = some fault := by
  rw [firstFault?_append, firstFault?_eq_none_iff.mpr drawn, firstFault?_cons,
    fault?_eq_some_iff.mpr failed]
  rfl

/-- Where a work fails after others that do not, the requests are those of the works up to it. -/
theorem requestsToFault_of_fault :
    requestsToFault (before ++ failing :: after) =
      (before.map (·.requests)).sum + failing.requests := by
  rw [requestsToFault_append, firstFault?_eq_none_iff.mpr drawn, requestsToFault_of_drawn drawn,
    requestsToFault, fault?_eq_some_iff.mpr failed]
  simp

end

theorem isOk_outcome (works : List Work) (text : String) :
    (outcome works text).isOk = false ↔ ∃ work ∈ works, work.drawn.isOk = false := by
  have none : firstFault? works = none ↔ ∀ work ∈ works, work.drawn.isOk = true :=
    firstFault?_eq_none_iff
  unfold outcome
  cases found : firstFault? works with
  | none =>
      have drawn := none.mp found
      refine iff_of_false (by simp [Except.isOk, Except.toBool]) ?_
      rintro ⟨work, member, failed⟩
      rw [drawn work member] at failed
      cases failed
  | some fault =>
      refine iff_of_true rfl ?_
      by_contra gentle
      have drawn : ∀ work ∈ works, work.drawn.isOk = true := by simpa using gentle
      rw [none.mpr drawn] at found
      cases found

end Work

/-- What a component on its own does, as one work. -/
def Script.work (canvas : Canvas) (script : Script) : Work :=
  ⟨script.requests canvas, script.drawnOn canvas⟩

/-- A component composed of others.  It does some work of its own, such as a look at the canvas or a
request to toggle, or draws another composite, goes on with the text it is given, and is done with a
text.  A fault it hands on. -/
inductive Composite where
  | done (text : String)
  | own (work : Script) (next : String → Composite)
  | child (part : Composite) (next : String → Composite)

namespace Composite

def script : Composite → Script
  | .done text => .finish (.ok text)
  | .own work next =>
      .child work fun drawn =>
        match drawn with
        | .error fault => .finish (.error fault)
        | .ok text => (next text).script
  | .child part next =>
      .child part.script fun drawn =>
        match drawn with
        | .error fault => .finish (.error fault)
        | .ok text => (next text).script

/-- Composites drawn one after the other, and what comes after them. -/
def each : List Composite → (List String → Composite) → Composite
  | [], next => next []
  | part :: rest, next => .child part fun text => each rest fun texts => next (text :: texts)

section

variable (canvas : Canvas)

/-- What a composite draws on a canvas. -/
def text : Composite → String
  | .done text => text
  | .own work next => (next (work.work canvas).text).text
  | .child part next => (next part.text).text

/-- All works on a canvas in the order in which they are done.  After one that fails come those that
would be done if it had drawn nothing. -/
def works : Composite → List Work
  | .done _ => []
  | .own work next => work.work canvas :: (next (work.work canvas).text).works
  | .child part next => part.works ++ (next (part.text canvas)).works

/-- The works of the node at the top. -/
def ownWorks : Composite → List Work
  | .done _ => []
  | .own work next => work.work canvas :: (next (work.work canvas).text).ownWorks
  | .child part next => (next (part.text canvas)).ownWorks

/-- The works of the nodes below, those of each before the works of the nodes below it. -/
def worksBelow : Composite → List Work
  | .done _ => []
  | .own work next => (next (work.work canvas).text).worksBelow
  | .child part next =>
      part.ownWorks canvas ++ part.worksBelow ++ (next (part.text canvas)).worksBelow

/-- The same works in the order of the nodes, each node before the nodes below it. -/
def preorder (composite : Composite) : List Work :=
  composite.ownWorks canvas ++ composite.worksBelow canvas

/-- Each node is done with all works of its own before it draws another one. -/
def OwnFirst : Composite → Prop
  | .done _ => True
  | .own work next => (next (work.work canvas).text).OwnFirst
  | .child part next =>
      part.OwnFirst ∧ (next (part.text canvas)).ownWorks canvas = [] ∧
        (next (part.text canvas)).OwnFirst

theorem perm_preorder (composite : Composite) :
    (composite.works canvas).Perm (composite.preorder canvas) := by
  induction composite with
  | done text => exact .refl _
  | own work next ih => exact (ih _).cons _
  | child part next partIH nextIH =>
      have later := nextIH (part.text canvas)
      exact (partIH.append later).trans (List.perm_append_comm_assoc _ _ _)

/-- Then the works are done in the order of the nodes. -/
theorem OwnFirst.works_eq {canvas : Canvas} {composite : Composite}
    (ownFirst : composite.OwnFirst canvas) :
    composite.works canvas = composite.preorder canvas := by
  induction composite with
  | done text => rfl
  | own work next ih => exact congrArg (_ :: ·) (ih _ ownFirst)
  | child part next partIH nextIH =>
      obtain ⟨first, silent, later⟩ := ownFirst
      have rest := nextIH _ later
      simp only [preorder, silent, List.nil_append] at rest
      simp only [works, preorder, ownWorks, worksBelow, partIH first, rest, silent,
        List.nil_append]

/-- A composite gives what its works give: the first fault among them, and the requests up to it. -/
theorem drawnOn_script (composite : Composite) :
    composite.script.drawnOn canvas =
        Work.outcome (composite.works canvas) (composite.text canvas) ∧
      composite.script.requests canvas = Work.requestsToFault (composite.works canvas) := by
  induction composite with
  | done text => exact ⟨rfl, rfl⟩
  | own work next ih =>
      simp only [script, Script.drawnOn, Script.requests, works, text, Work.requestsToFault,
        Work.outcome, Work.firstFault?_cons, Script.work, Work.fault?, Work.text]
      cases work.drawnOn canvas with
      | error fault => exact ⟨rfl, rfl⟩
      | ok drawn => exact ⟨(ih drawn).1, congrArg (_ + ·) (ih drawn).2⟩
  | child part next partIH nextIH =>
      obtain ⟨drawn, requests⟩ := partIH
      obtain ⟨drawnNext, requestsNext⟩ := nextIH (part.text canvas)
      simp only [script, Script.drawnOn, Script.requests, works, text, drawn, requests,
        Work.requestsToFault_append, Work.outcome, Work.firstFault?_append]
      cases Work.firstFault? (part.works canvas) with
      | some fault => exact ⟨rfl, rfl⟩
      | none => exact ⟨drawnNext, congrArg (_ + ·) requestsNext⟩

theorem works_each (parts : List Composite) (next : List String → Composite) :
    (each parts next).works canvas =
      parts.flatMap (·.works canvas) ++ (next (parts.map (·.text canvas))).works canvas := by
  induction parts generalizing next with
  | nil => rfl
  | cons part rest ih =>
      simp only [each, works, ih, List.flatMap_cons, List.map_cons, List.append_assoc]

theorem text_each (parts : List Composite) (next : List String → Composite) :
    (each parts next).text canvas = (next (parts.map (·.text canvas))).text canvas := by
  induction parts generalizing next with
  | nil => rfl
  | cons part rest ih => simp only [each, text, ih, List.map_cons]

theorem ownFirst_each {parts : List Composite} {next : List String → Composite}
    (first : ∀ part ∈ parts, part.OwnFirst canvas)
    (silent : ∀ texts, (next texts).ownWorks canvas = [])
    (later : ∀ texts, (next texts).OwnFirst canvas) :
    (each parts next).ownWorks canvas = [] ∧ (each parts next).OwnFirst canvas := by
  induction parts generalizing next with
  | nil => exact ⟨silent [], later []⟩
  | cons part rest ih =>
      rw [List.forall_mem_cons] at first
      obtain ⟨silentRest, laterRest⟩ :=
        ih first.2 (fun texts => silent (part.text canvas :: texts)) fun texts => later _
      exact ⟨silentRest, first.1, silentRest, laterRest⟩

end

end Composite

end WalletScreens.Scope
