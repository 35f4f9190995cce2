import Mathlib.Logic.ExistsUnique
import RelQuery.Compiler
import RelQuery.Proofs.Sql.Writer

/-!
# Statements for every database

The writers put texts of a generator together with their own, and nothing keeps them from
deciding by such a text what to write or whether to fail.  They do not: for one query all
generators fail alike, or what each of them writes is one list of pieces
(`compile_generic`).

That there is a list is what the writers and their counterparts agree on, all along their
recursion (`Sql.compile_eq`).  That there is no other takes an argument of its own.  Texts
next to each other are one text for every generator, so a list of pieces can be *fused*:
no text is empty, and no two texts are neighbours.  A fused list is determined by what all
generators together write for it (`eq_of_render_eq`).  The proof reads both lists from the
left.

* Two different pieces that are no texts are told apart by a generator that marks one
  of them (`marking`).
* After a text comes none, so where that text ends shows in what a generator writes
  that starts everything else with another character (`exists_head?_ne`).
-/

namespace RelQuery

/-! ## Fused pieces -/

namespace Piece

/-- Whether a piece is a text. -/
def isText : Piece → Bool
  | text _ => true
  | _ => false

/-- Whether a list of pieces starts with a text. -/
def opensWithText (ps : List Piece) : Bool := ps.head?.any isText

/-- Whether no text is empty, and none comes directly after another. -/
def Fused : List Piece → Prop
  | [] => True
  | p :: ps => (p.isText = true → p ≠ text "" ∧ opensWithText ps = false) ∧ Fused ps

/-- A piece before fused pieces, fused with them. -/
def push (p : Piece) (ps : List Piece) : List Piece :=
  match p, ps with
  | text s, text t :: qs => text (s ++ t) :: qs
  | text s, qs => if s = "" then qs else text s :: qs
  | p, qs => p :: qs

/-- The pieces with every run of texts as one text. -/
def fuse (ps : List Piece) : List Piece := ps.foldr push []

theorem fused_push {p : Piece} {ps : List Piece} (h : Fused ps) : Fused (push p ps) := by
  cases p with
  | identifier name => exact ⟨nofun, h⟩
  | string value => exact ⟨nofun, h⟩
  | text s =>
    have hnew : opensWithText ps = false → Fused (if s = "" then ps else text s :: ps) := by
      intro hopens
      by_cases hs : s = ""
      · rwa [if_pos hs]
      · rw [if_neg hs]
        exact ⟨fun _ => ⟨by simp [hs], hopens⟩, h⟩
    match ps with
    | [] => exact hnew rfl
    | identifier _ :: _ => exact hnew rfl
    | string _ :: _ => exact hnew rfl
    | text t :: qs =>
      obtain ⟨hne, hopens⟩ := h.1 rfl
      have ht : t ≠ "" := fun ht => hne (by rw [ht])
      exact ⟨fun _ => ⟨by simp [ht], hopens⟩, h.2⟩

theorem fused_fuse (ps : List Piece) : Fused (fuse ps) := by
  induction ps with
  | nil => trivial
  | cons p ps ih => exact fused_push ih

end Piece

namespace Generator

open Piece

theorem render_push (g : Generator) (p : Piece) (ps : List Piece) :
    g.render (push p ps) = g.renderPiece p ++ g.render ps := by
  cases p with
  | identifier name => exact render_cons g _ _
  | string value => exact render_cons g _ _
  | text s =>
    have hnew : g.render (if s = "" then ps else text s :: ps) =
        g.renderPiece (text s) ++ g.render ps := by
      by_cases hs : s = ""
      · rw [if_pos hs, hs]
        exact String.empty_append.symm
      · rw [if_neg hs, render_cons]
    match ps with
    | [] => exact hnew
    | identifier _ :: _ => exact hnew
    | string _ :: _ => exact hnew
    | text t :: qs =>
      rw [push, render_cons, render_cons, ← String.append_assoc]
      rfl

/-- Fusing changes nothing that is written. -/
theorem render_fuse (g : Generator) (ps : List Piece) : g.render (fuse ps) = g.render ps := by
  induction ps with
  | nil => rfl
  | cons p ps ih =>
    have hcons : fuse (p :: ps) = push p (fuse ps) := rfl
    rw [hcons, render_push, ih, render_cons]

/-! ## What generators tell apart -/

/-- The generator that writes one piece in one way, and all others in another way. -/
def marking (p : Piece) (mark other : String) : Generator where
  quoteIdentifier name := if identifier name = p then mark else other
  stringLiteral value := if string value = p then mark else other

theorem renderPiece_marking {p q : Piece} {mark other : String} (h : q.isText = false) :
    (marking p mark other).renderPiece q = if q = p then mark else other := by
  cases q with
  | text s => cases h
  | identifier name => rfl
  | string value => rfl

/-- Without a text in front, no character comes first under every generator. -/
theorem exists_head?_ne {ps : List Piece} (h : opensWithText ps = false) (c : Char) :
    ∃ g : Generator, (g.render ps).toList.head? ≠ some c := by
  cases ps with
  | nil => exact ⟨marking (text "") "" "", by simp⟩
  | cons p ps =>
    have hp : p.isText = false := h
    have hrender : ∀ mark : String, ((marking p mark mark).render (p :: ps)).toList =
        mark.toList ++ ((marking p mark mark).render ps).toList := by
      intro mark
      rw [render_cons, renderPiece_marking hp, if_pos rfl, String.toList_append]
    by_cases hc : c = 'a'
    · refine ⟨marking p "b" "b", ?_⟩
      rw [hrender, hc]
      simp
    · refine ⟨marking p "a" "a", ?_⟩
      rw [hrender]
      simpa using Ne.symm hc

/-- If no text is in front, then what all generators write starts with none. -/
theorem eq_nil_of_render_eq {ps : List Piece} {cs : List Char} (hps : opensWithText ps = false)
    (qs : List Piece) (h : ∀ g : Generator, (g.render ps).toList = cs ++ (g.render qs).toList) :
    cs = [] := by
  cases cs with
  | nil => rfl
  | cons c cs =>
    obtain ⟨g, hg⟩ := exists_head?_ne hps c
    rw [h g] at hg
    exact absurd rfl hg

theorem text_eq_of_render_eq {ps qs : List Piece} {s t : String}
    (hps : opensWithText ps = false) (hqs : opensWithText qs = false)
    (h : ∀ g : Generator, g.render (text s :: ps) = g.render (text t :: qs)) : s = t := by
  have hchars : ∀ g : Generator,
      s.toList ++ (g.render ps).toList = t.toList ++ (g.render qs).toList := by
    intro g
    have hg := congrArg String.toList (h g)
    rwa [render_cons, render_cons, String.toList_append, String.toList_append] at hg
  apply String.toList_injective
  rcases List.append_eq_append_iff.mp (hchars ⟨id, id⟩) with ⟨cs, ht, -⟩ | ⟨cs, hs, -⟩
  · have hcs : cs = [] := by
      refine eq_nil_of_render_eq hps qs fun g => ?_
      have hg := hchars g
      rw [ht, List.append_assoc] at hg
      exact List.append_cancel_left hg
    rw [ht, hcs, List.append_nil]
  · have hcs : cs = [] := by
      refine eq_nil_of_render_eq hqs ps fun g => ?_
      have hg := hchars g
      rw [hs, List.append_assoc] at hg
      exact (List.append_cancel_left hg).symm
    rw [hs, hcs, List.append_nil]

/-- Where all generators write the same, a text is in front of both lists or of none. -/
theorem isText_of_render_eq {p : Piece} {ps qs : List Piece} (hp : Fused (p :: ps))
    (h : ∀ g : Generator, g.render (p :: ps) = g.render qs) (hqs : opensWithText qs = false) :
    p.isText = false := by
  cases p with
  | identifier name => rfl
  | string value => rfl
  | text s =>
    have hs : s.toList = [] := by
      refine eq_nil_of_render_eq hqs ps fun g => ?_
      rw [← h g, render_cons, String.toList_append]
      rfl
    have hempty : s = "" := String.toList_injective hs
    exact absurd (by rw [hempty]) (hp.1 rfl).1

theorem head_eq_of_render_eq {p q : Piece} {ps qs : List Piece} (hp : Fused (p :: ps))
    (hq : Fused (q :: qs)) (h : ∀ g : Generator, g.render (p :: ps) = g.render (q :: qs)) :
    p = q := by
  cases hpText : p.isText with
  | true =>
    cases hqText : q.isText with
    | false => exact absurd (isText_of_render_eq hp h hqText) (by simp [hpText])
    | true =>
      obtain ⟨s, rfl⟩ : ∃ s, p = text s := by cases p <;> simp_all [isText]
      obtain ⟨t, rfl⟩ : ∃ t, q = text t := by cases q <;> simp_all [isText]
      rw [text_eq_of_render_eq (hp.1 rfl).2 (hq.1 rfl).2 h]
  | false =>
    have hqText : q.isText = false := isText_of_render_eq hq (fun g => (h g).symm) hpText
    -- The first character tells whether the first piece is `p`.
    have hchars := congrArg String.toList (h (marking p "a" "b"))
    rw [render_cons, render_cons, renderPiece_marking hpText, renderPiece_marking hqText,
      if_pos rfl] at hchars
    by_cases heq : q = p
    · exact heq.symm
    · rw [if_neg heq] at hchars
      simp at hchars

/-- Some generator writes something for pieces that are fused. -/
theorem not_forall_render_eq_empty {p : Piece} {ps : List Piece} (hp : Fused (p :: ps)) :
    ¬∀ g : Generator, g.render (p :: ps) = g.render [] := by
  intro h
  have hpText := isText_of_render_eq hp h rfl
  have hempty := congrArg String.toList (h (marking p "a" "a"))
  rw [render_cons, renderPiece_marking hpText, if_pos rfl] at hempty
  simp at hempty

/-- Fused pieces are determined by what all generators write for them. -/
theorem eq_of_render_eq {ps qs : List Piece} (hps : Fused ps) (hqs : Fused qs)
    (h : ∀ g : Generator, g.render ps = g.render qs) : ps = qs := by
  induction ps generalizing qs with
  | nil =>
    cases qs with
    | nil => rfl
    | cons q qs => exact absurd (fun g => (h g).symm) (not_forall_render_eq_empty hqs)
  | cons p ps ih =>
    cases qs with
    | nil => exact absurd h (not_forall_render_eq_empty hps)
    | cons q qs =>
      obtain rfl := head_eq_of_render_eq hps hqs h
      rw [ih hps.2 hqs.2 fun g => ?_]
      have hchars := congrArg String.toList (h g)
      rw [render_cons, render_cons, String.toList_append, String.toList_append] at hchars
      exact String.toList_injective (List.append_cancel_left hchars)

end Generator

/-! ## Statements -/

namespace Sql

theorem outcome_compile_fuse (g : Generator) (ctx : Context) (q : Query) :
    (compile g ctx q).outcome = (statement ctx q).outcome.map fun pieces =>
      g.render (Piece.fuse (pieces ++ [.text ";"])) := by
  rw [outcome_compile]
  refine congrArg (Except.map · _) (funext fun pieces => ?_)
  rw [Generator.render_fuse, Generator.render_append, Generator.render_text]

end Sql

namespace Compiler

/-- Databases differ in identifiers and strings alone.  For one query, compilers that
differ in nothing but their generators all fail with one error, or there is one list of
fused pieces that each of them writes with its own generator.  Either way, they keep
the same schemas. -/
theorem compile_generic (c : Compiler) (resolver : Resolver) (q : Query) :
    ((∃ e, ∀ g, ({ c with generator := g }.compile resolver q).1 = .error e) ∨
      ∃! pieces, Piece.Fused pieces ∧
        ∀ g, ({ c with generator := g }.compile resolver q).1 = .ok (g.render pieces)) ∧
    ∀ g, ({ c with generator := g }.compile resolver q).2.cache =
      (c.compile resolver q).2.cache := by
  have hcompile : ∀ g, ({ c with generator := g }.compile resolver q).1 =
      (Sql.statement (c.context resolver) q).outcome.map fun pieces =>
        g.render (Piece.fuse (pieces ++ [.text ";"])) :=
    fun g => Sql.outcome_compile_fuse g (c.context resolver) q
  refine ⟨?_, fun g => ?_⟩
  · cases hstatement : (Sql.statement (c.context resolver) q).outcome with
    | error e =>
      refine .inl ⟨e, fun g => ?_⟩
      rw [hcompile, hstatement]
      rfl
    | ok pieces =>
      have hwritten : ∀ g, ({ c with generator := g }.compile resolver q).1 =
          .ok (g.render (Piece.fuse (pieces ++ [.text ";"]))) := by
        intro g
        rw [hcompile, hstatement]
        rfl
      refine .inr ⟨_, ⟨Piece.fused_fuse _, hwritten⟩, ?_⟩
      rintro others ⟨hfused, hothers⟩
      refine Generator.eq_of_render_eq hfused (Piece.fused_fuse _) fun g => ?_
      exact Except.ok.inj ((hothers g).symm.trans (hwritten g))
  · show c.cache.lookUpAll resolver (Sql.compile g (c.context resolver) q).asked =
      c.cache.lookUpAll resolver (Sql.compile c.generator (c.context resolver) q).asked
    rw [Sql.asked_compile, Sql.asked_compile]

end Compiler

end RelQuery
