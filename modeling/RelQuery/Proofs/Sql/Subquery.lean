import RelQuery.Proofs.Sql.Depth
import RelQuery.Proofs.Sql.Embedding
import RelQuery.Proofs.Sql.Steps

/-!
# Queries as statements of their own

A query that stands in a statement is compiled as if it were the whole of a statement
(`compile_fill_query`).

* A read at a depth has the result that it has at the top under a limit that is lower
  by this depth, and its own kind makes no difference (`outcome_select_eq_ok_iff`).
* A statement embeds the query in its condition, where it writes one, and for no
  other query does it matter which it is (`embeds_statement`).  Two cases need care.
  A create writes no condition, and a delete may take the query from its payload, as
  the value of the key that it is guarded by.
-/

namespace RelQuery

variable {α β : Type} {depth : Option Nat}

/-! ## Reads at other depths -/

/-- Whether two computations have the same result or none. -/
def Agree (x y : Except Error α) : Prop := ∀ a, x = .ok a ↔ y = .ok a

theorem Agree.bind {x y : Except Error α} {f g : α → Except Error β} (h : Agree x y)
    (hf : ∀ a, Agree (f a) (g a)) : Agree (x >>= f) (y >>= g) := by
  intro b
  rw [bind_eq_ok_iff, bind_eq_ok_iff]
  exact exists_congr fun a => and_congr (h a) (hf a b)

namespace Sql

/-- Writing a number of levels deeper, under a limit that is higher by this number,
gives the same result. -/
theorem stepLaws_agree (schemas : String → Except Error Schema) (limit levels : Nat) :
    StepLaws (fun deep : Bool => ⟨schemas, bif deep then levels + limit else limit⟩)
      (fun deep => bif deep then levels else 0)
      fun _ x => Agree (x true).outcome (x false).outcome where
  ofExcept _ _ := Iff.rfl
  bind hx hf := by
    rw [Lookups.outcome_bind, Lookups.outcome_bind]
    exact hx.bind hf
  checkDepth depth a := by
    simp [Context.checkDepth, apply_ite]
  target kind model := by
    cases model <;> exact fun _ => Iff.rfl

/-- The kind of a query makes no difference where it is written as a read. -/
theorem agree_select_kind (ctx : Context) (depth : Nat) (q : Query) (kind : Kind) :
    Agree (select ctx depth q).outcome (select ctx depth { q with kind := kind }).outcome := by
  rw [outcome_select, outcome_select]
  refine Agree.bind (fun _ => Iff.rfl) fun _ => Agree.bind ?_ fun t _ => Iff.rfl
  intro t
  rw [target_eq_ok_iff, target_eq_ok_iff]

/-- A read at a depth is the statement of the read under a limit that is lower by
this depth. -/
theorem outcome_select_eq_ok_iff {ctx : Context} {depth : Nat} {q : Query} {pieces : List Piece} :
    (select ctx depth q).outcome = .ok pieces ↔ depth ≤ ctx.maxDepth ∧
      (statement { ctx with maxDepth := ctx.maxDepth - depth }
        { q with kind := .read }).outcome = .ok pieces := by
  obtain ⟨schemas, maxDepth⟩ := ctx
  rcases Nat.lt_or_ge maxDepth depth with hlt | hle
  · have hnone : (select ⟨schemas, maxDepth⟩ depth q).outcome =
        .error (.depthExceeded maxDepth) := select_of_lt hlt q
    rw [hnone]
    exact ⟨nofun, fun h => absurd h.1 (Nat.not_le.mpr hlt)⟩
  · obtain ⟨limit, rfl⟩ := Nat.exists_eq_add_of_le hle
    have hshift : Agree (select ⟨schemas, depth + limit⟩ depth { q with kind := .read }).outcome
        (select ⟨schemas, limit⟩ 0 { q with kind := .read }).outcome :=
      (stepLaws_agree schemas limit depth).select 0 { q with kind := .read }
    rw [agree_select_kind _ depth q .read pieces, and_iff_right hle, Nat.add_sub_cancel_left]
    exact hshift pieces

/-! ## Statements around a query -/

theorem nesting?_condition {q : Query} (hkind : q.kind ≠ .create) (spot : Condition.Spot) :
    (Query.Spot.condition q spot).nesting? = spot.depth? 0 := by
  rw [Query.Spot.nesting?, Query.Spot.guard?, if_neg hkind]
  rfl

/-- Nothing is written with a payload that holds a query. -/
theorem bind_payload_ne_ok (kind : Kind) (t : Target) (before : Entries Value) (field : String)
    (spot : Value.Spot) (after : Entries Value) (q : Query)
    (f : Entries Value → List (String × List Piece) → Except Error α) (a : α) :
    (do
      let fields ← payload kind t (some (before ++ (field, spot.fill (.query q)) :: after))
      let written ← writtenLiterals t fields
      f fields written) ≠ .ok a := by
  rw [payload_append_cons]
  intro hok
  obtain ⟨fields, hfields, hok⟩ := bind_eq_ok_iff.mp hok
  cases hfields
  obtain ⟨literals, hliterals, -⟩ := bind_eq_ok_iff.mp hok
  exact writtenLiterals_ne_ok t before field spot after q literals hliterals

theorem embeds_insert (ctx : Context) (spot : Query.Spot) (hkind : spot.around.kind = .create) :
    Embeds ctx Surrounds spot.nesting? fun q => (insert ctx (spot.fill (.query q))).outcome := by
  cases spot with
  | condition q spot =>
    have hnone : (Query.Spot.condition q spot).guard? = none := if_pos hkind
    rw [Query.Spot.nesting?, hnone]
    exact .const fun _ _ => rfl
  | join q before spot after => exact .const fun _ _ => rfl
  | payload q before field spot after =>
    refine .never fun inner pieces hok => ?_
    simp only [Query.Spot.fill, insert, Lookups.outcome_bind, Lookups.outcome_ofExcept] at hok
    obtain ⟨t, -, hok⟩ := bind_eq_ok_iff.mp hok
    exact bind_payload_ne_ok q.kind t before field spot after inner _ pieces hok

/-- A write embeds what its guard does, if its opening does not depend on the query. -/
theorem embeds_write (ctx : Context) (spot : Query.Spot)
    (hkind : spot.around.kind = .update ∨ spot.around.kind = .delete)
    (hopening : ∀ t : Target, ∃ head, ∀ q, opening (spot.fill (.query q)) t = head)
    (hguard : ∀ t : Target, spot.around.model = some t.model → ∃ c : Condition.Spot,
      depth = c.depth? 0 ∧ ∀ q, guardOf (spot.fill (.query q)) t.model = some (c.fill (.query q))) :
    Embeds ctx Surrounds depth fun q => (statement ctx (spot.fill (.query q))).outcome := by
  refine Embeds.congr ?_ fun q => outcome_statement_of_write (by rw [spot.kind_fill]; exact hkind)
  simp only [spot.kind_fill, spot.model_fill]
  refine .bind_const fun t ht => ?_
  obtain ⟨head, hhead⟩ := hopening t
  obtain ⟨c, rfl, hc⟩ := hguard t (target_eq_ok_iff.mp ht).1
  simp only [hhead, hc]
  refine .bind_const fun head _ => ?_
  have hformula := embeds_whereFormula (writeScope ctx spot.around.kind t) c
  exact (embeds_whereOptional _ hformula).bind_ok (fun filter => head ++ Clause.after filter)
    fun F hF => hF.append_left head

/-- A query that shows neither in the opening nor in the guard makes no difference. -/
theorem embeds_write_of_const (ctx : Context) (spot : Query.Spot)
    (hkind : spot.around.kind = .update ∨ spot.around.kind = .delete)
    (hopening : ∀ t : Target, ∃ head, ∀ q, opening (spot.fill (.query q)) t = head)
    (hguard : ∀ model, spot.around.model = some model →
      ∃ guard, ∀ q, guardOf (spot.fill (.query q)) model = guard) :
    Embeds ctx Surrounds none fun q => (statement ctx (spot.fill (.query q))).outcome := by
  have hwrite : ∀ q, (spot.fill (.query q)).kind = .update ∨
      (spot.fill (.query q)).kind = .delete :=
    fun q => by rwa [spot.kind_fill]
  refine .const fun q q' => ?_
  rw [outcome_statement_of_write (hwrite q), outcome_statement_of_write (hwrite q')]
  simp only [spot.kind_fill, spot.model_fill]
  refine bind_congr_of_ok fun t ht => ?_
  obtain ⟨head, hhead⟩ := hopening t
  obtain ⟨guard, hguard⟩ := hguard t.model (target_eq_ok_iff.mp ht).1
  simp only [hhead, hguard]

theorem embeds_update (ctx : Context) (spot : Query.Spot) (hkind : spot.around.kind = .update) :
    Embeds ctx Surrounds spot.nesting? fun q => (statement ctx (spot.fill (.query q))).outcome := by
  cases spot with
  | condition q spot =>
    rw [nesting?_condition fun h => by cases hkind.symm.trans h]
    exact embeds_write ctx (.condition q spot) (.inl hkind) (fun t => ⟨opening q t, fun _ => rfl⟩)
      fun t _ => ⟨spot, rfl, fun _ => guardOf_fill_condition q spot _ t.model⟩
  | join q before spot after =>
    exact embeds_write_of_const ctx (.join q before spot after) (.inl hkind)
      (fun t => ⟨opening q t, fun _ => rfl⟩) fun model _ => ⟨guardOf q model, fun _ => rfl⟩
  | payload q before field spot after =>
    have hq : q.kind = .update := hkind
    refine .never fun inner pieces hok => ?_
    have hupdate : ((Query.Spot.payload q before field spot after).fill (.query inner)).kind =
        .update := hkind
    rw [outcome_statement_of_write (.inl hupdate)] at hok
    obtain ⟨t, -, hok⟩ := bind_eq_ok_iff.mp hok
    obtain ⟨head, hhead, -⟩ := bind_eq_ok_iff.mp hok
    simp only [Query.Spot.fill, opening, hq] at hhead
    exact bind_payload_ne_ok .update t before field spot after inner _ head hhead

theorem embeds_delete (ctx : Context) (spot : Query.Spot) (hkind : spot.around.kind = .delete) :
    Embeds ctx Surrounds spot.nesting? fun q => (statement ctx (spot.fill (.query q))).outcome := by
  have hopening : ∀ t : Target, ∃ head, ∀ q, opening (spot.fill (.query q)) t = head := by
    refine fun t => ⟨.ok (.text "DELETE FROM " :: Clause.source t.model), fun q => ?_⟩
    simp only [opening, spot.kind_fill, hkind]
  cases spot with
  | condition q spot =>
    rw [nesting?_condition fun h => by cases hkind.symm.trans h]
    exact embeds_write ctx (.condition q spot) (.inr hkind) hopening
      fun t _ => ⟨spot, rfl, fun _ => guardOf_fill_condition q spot _ t.model⟩
  | join q before spot after =>
    exact embeds_write_of_const ctx (.join q before spot after) (.inr hkind) hopening
      fun model _ => ⟨guardOf q model, fun _ => rfl⟩
  | payload q before field spot after =>
    rw [Query.Spot.nesting?, Query.Spot.guard?]
    split
    next hkeyed =>
      -- The query is the value of the key, by which the delete is guarded.
      obtain ⟨-, hcondition, hkey, hbefore⟩ := hkeyed
      refine embeds_write ctx (.payload q before field spot after) (.inr hkind) hopening ?_
      refine fun t ht => ⟨.leaf field .eq spot, rfl, fun inner => ?_⟩
      have hmodel : q.model = some t.model := ht
      have hfield : field = t.model.key := by
        rw [hmodel] at hkey
        exact (Option.some.inj hkey).symm
      have hguard := guardOf_fill_payload q before field spot after t.model
      rw [if_pos ⟨hcondition, hfield, hbefore⟩] at hguard
      exact hguard _
    next hkeyed =>
      refine embeds_write_of_const ctx (.payload q before field spot after) (.inr hkind) hopening ?_
      intro model hmodel
      have hguard := guardOf_fill_payload q before field spot after model
      rw [if_neg] at hguard
      · obtain ⟨guard, hguard⟩ := hguard
        exact ⟨guard, fun inner => hguard _⟩
      · rintro ⟨hcondition, hfield, hbefore⟩
        have hq : q.model = some model := hmodel
        exact hkeyed ⟨hkind, hcondition, by rw [hq, hfield]; rfl, hbefore⟩

theorem nesting?_eq_of_read {spot : Query.Spot} (hkind : spot.around.kind = .read) :
    spot.nesting? = spot.depth? 0 := by
  cases spot with
  | condition q spot => exact nesting?_condition (fun h => by cases hkind.symm.trans h) spot
  | join q before spot after => rfl
  | payload q before field spot after =>
    have hne : ¬q.kind = .delete := fun h => by cases hkind.symm.trans h
    rw [Query.Spot.nesting?, Query.Spot.guard?, if_neg fun h => hne h.1]
    rfl

/-- A statement embeds a query that is written in it, and no other query makes a
difference to it. -/
theorem embeds_statement (ctx : Context) (spot : Query.Spot) :
    Embeds ctx Surrounds spot.nesting? fun q => (statement ctx (spot.fill (.query q))).outcome := by
  cases hkind : spot.around.kind with
  | read =>
    rw [nesting?_eq_of_read hkind]
    refine (embeds_select ctx 0 spot).congr fun q => ?_
    rw [statement, spot.kind_fill, hkind]
  | create =>
    refine (embeds_insert ctx spot hkind).congr fun q => ?_
    rw [statement, spot.kind_fill, hkind]
  | update => exact embeds_update ctx spot hkind
  | delete => exact embeds_delete ctx spot hkind

/-! ## Texts -/

variable {g : Generator} {ctx : Context} {spot : Query.Spot} {q : Query} {text : String}

/-- Where a query is not written, any other query leads to the same text. -/
theorem outcome_compile_fill_of_none (hnesting : spot.nesting? = none)
    (h : (compile g ctx (spot.fill (.query q))).outcome = .ok text) (q' : Query) :
    (compile g ctx (spot.fill (.query q'))).outcome = .ok text := by
  obtain ⟨pieces, hpieces, htext⟩ := outcome_compile_eq_ok_iff.mp h
  refine outcome_compile_eq_ok_iff.mpr ⟨pieces, ?_, htext⟩
  rcases embeds_statement ctx spot with ⟨F, -, hF⟩ | hnever
  · simp only [hnesting, written] at hF
    rw [hF q']
    rw [hF q] at hpieces
    exact hpieces
  · exact absurd hpieces (hnever q pieces)

/-- The text of a read at a depth is that of its own statement. -/
theorem exists_render_iff {depth : Nat} {inner : String} :
    (∃ ps, (select ctx depth q).outcome = .ok ps ∧ inner = g.render ps) ↔
      depth ≤ ctx.maxDepth ∧
        (compile g { ctx with maxDepth := ctx.maxDepth - depth } { q with kind := .read }).outcome =
          .ok (inner ++ ";") := by
  rw [outcome_compile_eq_ok_iff, ← exists_and_left]
  refine exists_congr fun ps => ?_
  rw [outcome_select_eq_ok_iff, and_assoc]
  refine and_congr_right fun _ => and_congr_right fun _ => ⟨fun h => by rw [h], fun h => ?_⟩
  have hchars := congrArg String.toList h
  rw [String.toList_append, String.toList_append] at hchars
  exact String.toList_injective (List.append_cancel_right hchars)

/-- Where a query is written, its own statement as a read is part of the text. -/
theorem outcome_compile_fill_of_some {depth : Nat} (hnesting : spot.nesting? = some depth)
    (h : (compile g ctx (spot.fill (.query q))).outcome = .ok text) :
    ∃ before keyword after, keyword ∈ ["IN", "NOT IN"] ∧ ∀ q' text',
      (compile g ctx (spot.fill (.query q'))).outcome = .ok text' ↔
        ∃ inner, (depth ≤ ctx.maxDepth ∧ (compile g
          { ctx with maxDepth := ctx.maxDepth - depth } { q' with kind := .read }).outcome =
            .ok (inner ++ ";")) ∧
          text' = before ++ " " ++ keyword ++ " (" ++ inner ++ ")" ++ after := by
  obtain ⟨pieces, hpieces, -⟩ := outcome_compile_eq_ok_iff.mp h
  rcases embeds_statement ctx spot with ⟨F, hsurrounds, hF⟩ | hnever
  · simp only [hnesting, written] at hF
    obtain ⟨before, keyword, after, hkeyword, hsurrounds⟩ := hsurrounds (by rw [hnesting]; rfl)
    have hrender : ∀ ps, g.render (F ps) ++ ";" = g.render before ++ " " ++ keyword ++ " (" ++
        g.render ps ++ ")" ++ (g.render after ++ ";") := by
      intro ps
      simp only [hsurrounds, g.render_append, g.render_cons, Generator.renderPiece,
        String.append_assoc]
    refine ⟨g.render before, keyword, g.render after ++ ";", hkeyword, fun q' text' => ?_⟩
    rw [outcome_compile_eq_ok_iff, hF]
    constructor
    · rintro ⟨_, hpieces, rfl⟩
      obtain ⟨ps, hps, rfl⟩ := map_eq_ok_iff.mp hpieces
      exact ⟨g.render ps, exists_render_iff.mp ⟨ps, hps, rfl⟩, hrender ps⟩
    · rintro ⟨inner, hinner, rfl⟩
      obtain ⟨ps, hps, rfl⟩ := exists_render_iff.mpr hinner
      exact ⟨F ps, map_eq_ok_iff.mpr ⟨ps, hps, rfl⟩, (hrender ps).symm⟩
  · exact absurd hpieces (hnever q pieces)

end Sql

namespace Compiler

/-- A query in a statement is compiled on its own.  If it is written at all, then what
stands between the parentheses is the statement of the query as a read, under the
limit that is left at its depth.  Around it is what would be there with any other
query in its place.  If it is not written, then it makes no difference. -/
theorem compile_fill_query {c : Compiler} {resolver : Resolver} {spot : Query.Spot} {q : Query}
    {text : String} (h : (c.compile resolver (spot.fill (.query q))).1 = .ok text) :
    match spot.nesting? with
    | none => ∀ q', (c.compile resolver (spot.fill (.query q'))).1 = .ok text
    | some depth =>
      let lower : Compiler := { c with maxDepth := c.maxDepth - depth }
      1 ≤ depth ∧ depth ≤ c.maxDepth ∧
      ∃ before keyword after, keyword ∈ ["IN", "NOT IN"] ∧
        (∃ inner, (lower.compile resolver { q with kind := .read }).1 = .ok (inner ++ ";") ∧
          text = before ++ " " ++ keyword ++ " (" ++ inner ++ ")" ++ after) ∧
        ∀ q' text', (c.compile resolver (spot.fill (.query q'))).1 = .ok text' ↔
          ∃ inner, (lower.compile resolver { q' with kind := .read }).1 = .ok (inner ++ ";") ∧
            text' = before ++ " " ++ keyword ++ " (" ++ inner ++ ")" ++ after := by
  cases hnesting : spot.nesting? with
  | none => exact Sql.outcome_compile_fill_of_none hnesting h
  | some depth =>
    obtain ⟨before, keyword, after, hkeyword, hiff⟩ := Sql.outcome_compile_fill_of_some hnesting h
    obtain ⟨inner, ⟨hle, hinner⟩, htext⟩ := (hiff q text).mp h
    have hpositive : 1 ≤ depth := by
      obtain ⟨guard, -, hguard⟩ := Option.bind_eq_some_iff.mp hnesting
      exact guard.lt_of_depth? hguard
    simp only [and_iff_right hle] at hiff
    exact ⟨hpositive, hle, before, keyword, after, hkeyword, ⟨inner, hinner, htext⟩, hiff⟩

/-- A delete of notes on the posts of some authors, with the query for these authors
taken out. -/
def authorSpot : Query.Spot :=
  .condition { kind := .delete, model := some ⟨"Note", "notes", "id"⟩ }
    (.member .or [.raw " old "] (.leaf "post" .ne
      (.query (.condition { model := some ⟨"Post", "posts", "id"⟩ } (.leaf "by" .eq .here)))) [])

/-- An update of the authors above an age. -/
def oldAuthors : Query where
  kind := .update
  model := some ⟨"Author", "authors", "id"⟩
  conditions := some (.leaf "age" .gt (.int 99))

theorem compile_fill_query_authorSpot :
    authorSpot.nesting? = some 2 ∧ ∃ text,
    text = "DELETE FROM \"notes\" AS \"Note\" WHERE (old) OR "
      ++ "\"post\" NOT IN (SELECT * FROM \"posts\" AS \"Post\" WHERE "
      ++ "by IN (SELECT * FROM \"authors\" AS \"Author\" WHERE age > 99));" ∧
    (({ maxDepth := 2 : Compiler }).compile ({} : Registry).resolver
      (authorSpot.fill (.query oldAuthors))).1 = .ok text ∧
    ∃ before keyword after, keyword ∈ ["IN", "NOT IN"] ∧
      (∃ inner, (({ maxDepth := 0 : Compiler }).compile ({} : Registry).resolver
          { oldAuthors with kind := .read }).1 = .ok (inner ++ ";") ∧
        text = before ++ " " ++ keyword ++ " (" ++ inner ++ ")" ++ after) ∧
      ∀ q' text', (({ maxDepth := 2 : Compiler }).compile ({} : Registry).resolver
          (authorSpot.fill (.query q'))).1 = .ok text' ↔
        ∃ inner, (({ maxDepth := 0 : Compiler }).compile ({} : Registry).resolver
            { q' with kind := .read }).1 = .ok (inner ++ ";") ∧
          text' = before ++ " " ++ keyword ++ " (" ++ inner ++ ")" ++ after := by
  have hcompile : (({ maxDepth := 2 : Compiler }).compile ({} : Registry).resolver
      (authorSpot.fill (.query oldAuthors))).1 =
        .ok ("DELETE FROM \"notes\" AS \"Note\" WHERE (old) OR "
          ++ "\"post\" NOT IN (SELECT * FROM \"posts\" AS \"Post\" WHERE "
          ++ "by IN (SELECT * FROM \"authors\" AS \"Author\" WHERE age > 99));") := rfl
  exact ⟨rfl, _, rfl, hcompile, (compile_fill_query hcompile).2.2⟩

end Compiler

end RelQuery
