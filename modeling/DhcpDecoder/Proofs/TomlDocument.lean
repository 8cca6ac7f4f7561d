import Mathlib
import DhcpDecoder.Proofs.TomlReading

/-!
Reading whole documents of tables.
-/

namespace DhcpDecoder.Toml

section Tree

variable {R ms : List (String × Value)} {t k : String} {x y : Value}

theorem find?_fresh (h : t ∉ R.map Prod.fst) : R.find? (·.1 == t) = none := by
  rw [List.find?_eq_none]
  intro m hm
  rw [beq_iff_eq]
  rintro rfl
  exact h (List.mem_map_of_mem hm)

theorem find?_last (h : t ∉ R.map Prod.fst) : (R ++ [(t, x)]).find? (·.1 == t) = some (t, x) := by
  rw [List.find?_append, find?_fresh h]
  simp

theorem lookup_fresh (h : t ∉ R.map Prod.fst) : lookup R [t] = none := by
  simp [lookup, find?_fresh h]

theorem lookup_last (h : t ∉ R.map Prod.fst) : lookup (R ++ [(t, x)]) [t] = some x := by
  simp [lookup, find?_last h]

theorem lookup_last_fresh (h : t ∉ R.map Prod.fst) (hk : k ∉ ms.map Prod.fst) :
    lookup (R ++ [(t, .table ms)]) [t, k] = none := by
  simp [lookup, find?_last h, find?_fresh hk]

theorem setMember_fresh (h : t ∉ R.map Prod.fst) : setMember R t x = R ++ [(t, x)] := by
  have hany : R.any (·.1 == t) = false := by
    rw [List.any_eq_false]
    intro m hm
    rw [beq_iff_eq]
    rintro rfl
    exact h (List.mem_map_of_mem hm)
  simp [setMember, hany]

theorem setMember_last (h : t ∉ R.map Prod.fst) :
    setMember (R ++ [(t, x)]) t y = R ++ [(t, y)] := by
  have hR : R.map (fun m => if m.1 = t then (t, y) else m) = R := by
    conv_rhs => rw [← List.map_id R]
    refine List.map_congr_left fun m hm => if_neg fun he => h ?_
    rw [← he]
    exact List.mem_map_of_mem hm
  simp [setMember, hR]

theorem setAt_fresh (h : t ∉ R.map Prod.fst) : setAt R [t] x = R ++ [(t, x)] := by
  rw [setAt, setMember_fresh h]

theorem setAt_last_fresh (h : t ∉ R.map Prod.fst) (hk : k ∉ ms.map Prod.fst) :
    setAt (R ++ [(t, .table ms)]) [t, k] x = R ++ [(t, .table (ms ++ [(k, x)]))] := by
  simp [setAt, find?_last h, setMember_fresh hk, setMember_last h]

end Tree

section Tables

variable {v : View}

theorem forIn_passes {l : List Nat} {body : Nat → PUnit → Reader (ForInStep PUnit)}
    (h : ∀ i ∈ l, Gives (body i ()) v (.yield ()) v) : Gives (forIn l () body) v () v := by
  induction l with
  | nil => exact Gives.pure _
  | cons i l ih =>
    rw [List.forIn_cons]
    refine (h i List.mem_cons_self).bind ?_
    exact ih fun j hj => h j (List.mem_cons_of_mem i hj)

def Passable (o : Option Value) : Prop := o = none ∨ ∃ ms, o = some (.table ms)

theorem setValue_new {k : String} {x : Value} {root : List (String × Value)}
    (hpre : ∀ i ∈ List.range' 1 v.context.length, Passable (lookup v.root (v.context.take i)))
    (hnew : lookup v.root (v.context ++ [k]) = none)
    (hset : setAt v.root (v.context ++ [k]) x = root) :
    Gives (setValue k x) v () { v with root := root } := by
  unfold setValue
  refine Reads.get_bind fun s hs => ?_
  rw [show s.context = v.context from congrArg View.context hs]
  dsimp only
  rw [Std.Legacy.Range.forIn_eq_forIn_range']
  -- the loop over the key's parents only reads, and passes each of them
  refine (forIn_passes fun i hi => ?_).bind ?_
  · simp only [Std.Legacy.Range.size, Nat.add_sub_cancel, Nat.div_one] at hi
    refine Reads.get_bind fun s' hs' => ?_
    rw [show s'.root = v.root from congrArg View.root hs']
    rcases hpre i hi with h | ⟨ms, h⟩
    · rw [h]
      exact Gives.pure _
    · rw [h]
      exact Gives.pure _
  refine Reads.get_bind fun s' hs' => ?_
  rw [show s'.root = v.root from congrArg View.root hs', hnew, ← hset]
  exact modify_gives (fun w => { w with root := setAt w.root (v.context ++ [k]) x }) fun _ => rfl

theorem addContext_fresh {n : String} (hfresh : n ∉ v.root.map Prod.fst) :
    Gives (addContext [n] false) v ()
      { v with root := v.root ++ [(n, .table [])], context := [n] } := by
  unfold addContext
  rw [Std.Legacy.Range.forIn_eq_forIn_range']
  refine (forIn_passes fun i hi => absurd hi (by simp [Std.Legacy.Range.size])).bind ?_
  refine (modify_gives (fun w => { w with context := [] }) fun _ => rfl).bind ?_
  rw [if_neg (by decide)]
  refine (setValue_new (fun i hi => absurd hi (by simp)) (lookup_fresh hfresh)
    (setAt_fresh hfresh)).bind ?_
  exact modify_gives (fun w => { w with context := [n] }) fun _ => rfl

theorem itemEnd_break {more : List Char} (hv : v.rest = '\n' :: more) : Gives itemEnd v () v := by
  unfold itemEnd
  refine (skipWhile_none (by rw [hv]; exact stopsAt_cons (by decide) (by decide))).bind ?_
  refine (peek_gives hv (by decide)).bind ?_
  split
  case h_2 =>
    rename_i heq
    cases heq
    rw [if_pos (by decide)]
    exact Gives.pure _
  all_goals
    rename_i heq
    cases heq

theorem tableHeader_fresh {name more : List Char} (hv : v.rest = name ++ ']' :: more)
    (hn : BareName name) (hfresh : String.ofList name ∉ v.root.map Prod.fst) :
    Gives tableHeader v ()
      { v with
        rest := more
        root := v.root ++ [(String.ofList name, .table [])]
        ordered := v.ordered ++ [[String.ofList name]]
        context := [String.ofList name] } := by
  obtain ⟨c, name', rfl⟩ := List.exists_cons_of_ne_nil hn.1
  have hc := hn.2 c List.mem_cons_self
  unfold tableHeader
  refine (accept_other (by rw [hv]; rfl) (plain_of_isBareChar hc) ?_).bind ?_
  · rintro rfl
    exact absurd hc (by decide)
  refine (modify_gives (fun w => w) fun _ => by rfl).bind ?_
  refine fuelLeft_gives.bind ?_
  refine (tableName_bare hv hn _).bind ?_
  rw [if_neg (by decide)]
  refine Reads.bind line_reads ?_
  rintro _ w rfl
  refine (addContext_fresh (v := { v with rest := more }) hfresh).bind ?_
  refine (setType_gives _ _ _).bind ?_
  exact modify_gives (fun w => { w with ordered := w.ordered ++ [[String.ofList (c :: name')]] })
    fun _ => rfl

theorem dottedParents_nil : Gives (dottedParents []) v () v := by
  unfold dottedParents
  rw [List.forIn_nil]
  exact Gives.pure _

theorem keyValue_member {k more : List Char} {x : Written} {R ms : List (String × Value)}
    {t : String}
    {O : List (List String)} {cur : String} (hk : BareName k) (hx : x.Fits)
    (ht : t ∉ R.map Prod.fst) (hnew : String.ofList k ∉ ms.map Prod.fst) :
    Gives keyValue
      ⟨k ++ ' ' :: '=' :: ' ' :: (x.chars ++ '\n' :: more), R ++ [(t, .table ms)], O, [t], cur⟩ ()
      ⟨'\n' :: more, R ++ [(t, .table (ms ++ [(String.ofList k, x.value)]))],
        O ++ [[t, String.ofList k]], [t], ""⟩ := by
  unfold keyValue
  refine (key_bare rfl hk).bind ?_
  refine Reads.get_bind fun s hs => ?_
  rw [show s.context = [t] from congrArg View.context hs]
  refine (modify_gives (fun w => { w with currentKey := String.ofList k }) fun _ => rfl).bind ?_
  refine dottedParents_nil.bind ?_
  refine Reads.get_bind fun s hs => ?_
  rw [show s.context = [t] from congrArg View.context hs]
  refine (modify_gives (fun w => { w with ordered := w.ordered ++ [[t, String.ofList k]] })
    fun _ => rfl).bind ?_
  refine fuelLeft_gives.bind ?_
  refine Reads.bind (value_written x hx (show _ = [' '] ++ x.chars ++ '\n' :: more by simp)
    (fun c hc => List.mem_singleton.mp hc) ⟨'\n', more, rfl, .inl rfl⟩ (by simp; omega)) ?_
  rintro ⟨a, l⟩ w ⟨ha, rfl⟩
  dsimp only at ha
  subst ha
  refine (setValue_new (fun i hi => ?_) (lookup_last_fresh ht hnew)
    (setAt_last_fresh ht hnew)).bind ?_
  · rw [show i = 1 by simpa using hi]
    exact .inr ⟨ms, lookup_last ht⟩
  refine (setType_gives _ _ _).bind ?_
  refine (modify_gives (fun w => { w with context := [t], currentKey := "" }) fun _ => rfl).bind ?_
  exact itemEnd_break rfl

end Tables

/-! ### Documents item by item -/

/-- The document reader goes from `v` on to `w` through one top-level item, using up characters. -/
def ItemStep (v w : View) : Prop :=
  w.rest.length < v.rest.length ∧
    ∀ fuel (Q : Unit → View → Prop), Reads (document fuel) w Q → Reads (document (fuel + 1)) v Q

theorem document_of_steps {v w : View} (h : Relation.ReflTransGen ItemStep v w) :
    ∃ n, n + w.rest.length ≤ v.rest.length ∧
      ∀ fuel Q, Reads (document fuel) w Q → Reads (document (fuel + n)) v Q := by
  -- induction on the run, taken from its last step; each step costs one unit of fuel
  induction h with
  | refl => exact ⟨0, by simp, fun fuel Q h => h⟩
  | tail _ hs ih =>
    obtain ⟨n, hn, hrun⟩ := ih
    obtain ⟨hlt, hstep⟩ := hs
    refine ⟨n + 1, by omega, fun fuel Q h => ?_⟩
    rw [show fuel + (n + 1) = fuel + 1 + n by omega]
    exact hrun _ _ (hstep fuel Q h)

def Gap (g : List Char) : Prop := ∀ c ∈ g, c = ' ' ∨ c = '\n'

instance : DecidablePred Gap := fun g =>
  decidable_of_iff ((g.all fun c => c = ' ' || c = '\n') = true) (by simp [Gap, List.all_eq_true])

def LineEnd (after : List Char) : Prop := ∃ m, after = '\n' :: m

theorem Gap.blankOrBreak {g : List Char} (h : Gap g) :
    ∀ c ∈ g, plain c = true ∧ (isBlank c || isBreak c) = true := by
  intro c hc
  rcases h c hc with rfl | rfl <;> decide

section Items

variable {g more after : List Char} {R : List (String × Value)} {O : List (List String)}
  {ctx : List String} {cur : String}

theorem header_step {name : List Char} (hg : Gap g) (hn : BareName name)
    (hfresh : String.ofList name ∉ R.map Prod.fst) (hafter : LineEnd after) :
    ItemStep ⟨g ++ '[' :: (name ++ ']' :: after), R, O, ctx, cur⟩
      ⟨after, R ++ [(String.ofList name, .table [])], O ++ [[String.ofList name]],
        [String.ofList name], cur⟩ := by
  obtain ⟨m, rfl⟩ := hafter
  refine ⟨by simp; omega, fun fuel Q hQ => ?_⟩
  rw [document]
  refine (skipWhile_gives rfl hg.blankOrBreak (stopsAt_cons (by decide) (by decide))).bind ?_
  refine (peek_gives rfl (by decide)).bind ?_
  split
  case h_3 =>
    refine (next_gives rfl (by decide)).bind ?_
    refine (tableHeader_fresh rfl hn hfresh).bind ?_
    refine (itemEnd_break rfl).bind ?_
    exact hQ
  case h_4 h heq =>
    cases heq
    exact absurd rfl h
  all_goals
    rename_i heq
    cases heq

theorem isBreak_of_toNat {c : Char} (h : 45 ≤ c.toNat) : isBreak c = false := by
  simp only [isBreak, Bool.or_eq_false_iff, decide_eq_false_iff_not]
  constructor <;> (rintro rfl; simp at h)

theorem entry_step {k : List Char} {x : Written} {ms : List (String × Value)} {t : String}
    (hg : Gap g) (hk : BareName k) (hx : x.Fits) (ht : t ∉ R.map Prod.fst)
    (hnew : String.ofList k ∉ ms.map Prod.fst) (hafter : LineEnd after) :
    ItemStep
      ⟨g ++ (k ++ ' ' :: '=' :: ' ' :: (x.chars ++ after)), R ++ [(t, .table ms)], O, [t], cur⟩
      ⟨after, R ++ [(t, .table (ms ++ [(String.ofList k, x.value)]))], O ++ [[t, String.ofList k]],
        [t], ""⟩ := by
  obtain ⟨m, rfl⟩ := hafter
  refine ⟨by simp; omega, fun fuel Q hQ => ?_⟩
  obtain ⟨c, k', rfl⟩ := List.exists_cons_of_ne_nil hk.1
  have hc := hk.2 c List.mem_cons_self
  rw [document]
  have hstop := hk.stopsAt (p := fun c => isBlank c || isBreak c)
    (fun _ h => by simp [isBlank_of_toNat h, isBreak_of_toNat h])
  refine (skipWhile_gives rfl hg.blankOrBreak (hstop _)).bind ?_
  refine (peek_gives rfl (plain_of_isBareChar hc)).bind ?_
  split
  case h_4 =>
    refine (keyValue_member hk hx ht hnew).bind ?_
    exact hQ
  -- a bare key opens with neither a comment nor a table header
  all_goals
    rename_i heq
    cases heq
  all_goals exact absurd hc (by decide)

end Items

/-! ### Documents of tables -/

structure Table where
  name : List Char
  entries : List (List Char × Written)

namespace Table

def entryChars (e : List Char × Written) : List Char :=
  '\n' :: ' ' :: ' ' :: (e.1 ++ ' ' :: '=' :: ' ' :: e.2.chars)

def chars (tb : Table) : List Char := '[' :: (tb.name ++ ']' :: tb.entries.flatMap entryChars)

def tree (tb : Table) : String × Value :=
  (String.ofList tb.name, .table (tb.entries.map fun e => (String.ofList e.1, e.2.value)))

def keys (tb : Table) : List (List String) :=
  [String.ofList tb.name] :: tb.entries.map fun e => [String.ofList tb.name, String.ofList e.1]

structure Ok (tb : Table) : Prop where
  name_bare : BareName tb.name
  keys_bare : ∀ k ∈ tb.entries.map Prod.fst, BareName k
  fits : ∀ e ∈ tb.entries, e.2.Fits
  keys_nodup : (tb.entries.map fun e => String.ofList e.1).Nodup

end Table

theorem LineEnd.flatMap {α : Type} {after : List Char} {f : α → List Char}
    (hf : ∀ y, ∃ m, f y = '\n' :: m) (l : List α) (h : LineEnd after) :
    LineEnd (l.flatMap f ++ after) := by
  cases l with
  | nil => exact h
  | cons y l =>
    obtain ⟨m, hm⟩ := hf y
    exact ⟨m ++ (l.flatMap f ++ after), by rw [List.flatMap_cons, hm]; simp⟩

theorem lineEnd_entries {after : List Char} (es : List (List Char × Written)) (h : LineEnd after) :
    LineEnd (es.flatMap Table.entryChars ++ after) :=
  LineEnd.flatMap (fun _ => ⟨_, rfl⟩) es h

section Runs

variable {after : List Char} {R : List (String × Value)} {O : List (List String)}

theorem entries_steps {t : String} (es : List (List Char × Written)) (ms : List (String × Value))
    (hes : ∀ e ∈ es, BareName e.1 ∧ e.2.Fits)
    (hnd : (ms.map Prod.fst ++ es.map fun e => String.ofList e.1).Nodup)
    (ht : t ∉ R.map Prod.fst) (hafter : LineEnd after) (O : List (List String)) :
    Relation.ReflTransGen ItemStep
      ⟨es.flatMap Table.entryChars ++ after, R ++ [(t, .table ms)], O, [t], ""⟩
      ⟨after, R ++ [(t, .table (ms ++ es.map fun e => (String.ofList e.1, e.2.value)))],
        O ++ es.map (fun e => [t, String.ofList e.1]), [t], ""⟩ := by
  induction es generalizing ms O with
  | nil =>
    simp only [List.flatMap_nil, List.nil_append, List.map_nil, List.append_nil]
    exact .refl
  | cons e es ih =>
    -- the first entry adds one member to the open table, fresh since the keys are distinct
    obtain ⟨k, x⟩ := e
    obtain ⟨hk, hx⟩ := hes (k, x) List.mem_cons_self
    have hnew : String.ofList k ∉ ms.map Prod.fst := fun h =>
      List.disjoint_of_nodup_append (List.map_cons ▸ hnd) h List.mem_cons_self
    have hrest := ih (ms ++ [(String.ofList k, x.value)])
      (fun e he => hes e (List.mem_cons_of_mem _ he))
      (by simpa using hnd) (O ++ [[t, String.ofList k]])
    simp only [List.append_assoc, List.singleton_append] at hrest
    have htext : List.flatMap Table.entryChars ((k, x) :: es) ++ after =
        ['\n', ' ', ' '] ++
          (k ++ ' ' :: '=' :: ' ' :: (x.chars ++ (es.flatMap Table.entryChars ++ after))) := by
      simp [Table.entryChars]
    rw [htext]
    refine .head (entry_step (by decide) hk hx ht hnew (lineEnd_entries es hafter)) ?_
    simpa using hrest

theorem table_steps {g : List Char} (ctx : List String) (tb : Table) (hok : tb.Ok) (hg : Gap g)
    (hfresh : String.ofList tb.name ∉ R.map Prod.fst) (hafter : LineEnd after) :
    Relation.ReflTransGen ItemStep ⟨g ++ tb.chars ++ after, R, O, ctx, ""⟩
      ⟨after, R ++ [tb.tree], O ++ tb.keys, [String.ofList tb.name], ""⟩ := by
  have htext : g ++ tb.chars ++ after =
      g ++ '[' :: (tb.name ++ ']' :: (tb.entries.flatMap Table.entryChars ++ after)) := by
    simp [Table.chars]
  rw [htext]
  refine .head (header_step hg hok.name_bare hfresh (lineEnd_entries _ hafter)) ?_
  have hrun := entries_steps (R := R) (t := String.ofList tb.name) tb.entries []
    (fun e he => ⟨hok.keys_bare e.1 (List.mem_map_of_mem he), hok.fits e he⟩)
    (by simpa using hok.keys_nodup) hfresh hafter (O ++ [[String.ofList tb.name]])
  simpa [Table.tree, Table.keys] using hrun

theorem tables_steps (ts : List Table) (hok : ∀ tb ∈ ts, tb.Ok)
    (hnd : (R.map Prod.fst ++ ts.map fun tb => String.ofList tb.name).Nodup)
    (hafter : LineEnd after) (ctx : List String) :
    ∃ ctx', Relation.ReflTransGen ItemStep
      ⟨(ts.flatMap fun tb => '\n' :: '\n' :: tb.chars) ++ after, R, O, ctx, ""⟩
      ⟨after, R ++ ts.map Table.tree, O ++ ts.flatMap Table.keys, ctx', ""⟩ := by
  induction ts generalizing R O ctx with
  | nil => exact ⟨ctx, by simpa using .refl⟩
  | cons tb ts ih =>
    -- the table goes after the earlier ones in the root, fresh since the names are distinct
    have hfresh : String.ofList tb.name ∉ R.map Prod.fst := fun h =>
      List.disjoint_of_nodup_append (List.map_cons ▸ hnd) h List.mem_cons_self
    have hfirst := table_steps (g := ['\n', '\n']) (O := O) ctx tb (hok tb List.mem_cons_self)
      (by decide) hfresh
      (LineEnd.flatMap (f := fun tb => '\n' :: '\n' :: tb.chars) (fun _ => ⟨_, rfl⟩) ts hafter)
    obtain ⟨ctx', hrest⟩ := ih (R := R ++ [tb.tree]) (O := O ++ tb.keys)
      (fun tb' h => hok tb' (List.mem_cons_of_mem _ h)) (by simpa [Table.tree] using hnd)
      [String.ofList tb.name]
    refine ⟨ctx', ?_⟩
    have htext : (List.flatMap (fun tb => '\n' :: '\n' :: tb.chars) (tb :: ts) ++ after) =
        ['\n', '\n'] ++ tb.chars ++ ((ts.flatMap fun tb => '\n' :: '\n' :: tb.chars) ++ after) := by
      simp
    rw [htext]
    simpa using hfirst.trans hrest

end Runs

def tablesText (ts : List Table) : List Char :=
  ['\n', '\n'].intercalate (ts.map Table.chars) ++ ['\n']

theorem document_end {R : List (String × Value)} {O : List (List String)} {ctx : List String}
    {cur : String} (fuel : Nat) :
    Gives (document (fuel + 1)) ⟨['\n'], R, O, ctx, cur⟩ () ⟨[], R, O, ctx, cur⟩ := by
  rw [document]
  refine (skipWhile_gives (show _ = ['\n'] ++ [] from rfl) (fun c hc => ?_)
    (fun c hc => ?_)).bind ?_
  · rw [List.mem_singleton.mp hc]
    decide
  · simp at hc
  refine (peek_nil rfl).bind ?_
  exact Gives.pure _

theorem document_tables (ts : List Table) (hok : ∀ tb ∈ ts, tb.Ok)
    (hnd : (ts.map fun tb => String.ofList tb.name).Nodup) :
    ∃ ctx, Gives (document ((tablesText ts).length + 1)) ⟨tablesText ts, [], [], [], ""⟩ ()
      ⟨[], ts.map Table.tree, ts.flatMap Table.keys, ctx, ""⟩ := by
  have hsteps : ∃ ctx, Relation.ReflTransGen ItemStep ⟨tablesText ts, [], [], [], ""⟩
      ⟨['\n'], ts.map Table.tree, ts.flatMap Table.keys, ctx, ""⟩ := by
    -- no blank lines stand before the first table, so it is taken apart from the rest
    cases ts with
    | nil => exact ⟨[], .refl⟩
    | cons tb ts =>
      have hfirst := table_steps (g := []) (R := []) (O := []) [] tb (hok tb List.mem_cons_self)
        (by decide) List.not_mem_nil
        (LineEnd.flatMap (f := fun tb => '\n' :: '\n' :: tb.chars) (fun _ => ⟨_, rfl⟩) ts ⟨[], rfl⟩)
      obtain ⟨ctx', hrest⟩ := tables_steps (R := [tb.tree]) (O := tb.keys) ts
        (fun tb' h => hok tb' (List.mem_cons_of_mem _ h)) (by simpa [Table.tree] using hnd)
        ⟨[], rfl⟩
        [String.ofList tb.name]
      refine ⟨ctx', ?_⟩
      have htext : tablesText (tb :: ts) =
          [] ++ tb.chars ++ ((ts.flatMap fun tb => '\n' :: '\n' :: tb.chars) ++ ['\n']) := by
        simp [tablesText, intercalate_cons_map]
      rw [htext]
      simpa using hfirst.trans hrest
  obtain ⟨ctx, hs⟩ := hsteps
  obtain ⟨n, hn, hrun⟩ := document_of_steps hs
  refine ⟨ctx, ?_⟩
  simp only [List.length_singleton] at hn
  rw [show (tablesText ts).length + 1 = (tablesText ts).length - n + 1 + n by omega]
  exact hrun _ _ (document_end _)

theorem head?_tablesText (ts : List Table) : (tablesText ts).head? ≠ some (Char.ofNat 0xFEFF) := by
  cases ts with
  | nil => decide
  | cons tb ts =>
    simp only [tablesText, List.map_cons, intercalate_cons_map, Table.chars, List.cons_append,
      List.head?_cons, ne_eq, Option.some.injEq]
    decide

theorem parse_tables (ts : List Table) (hok : ∀ tb ∈ ts, tb.Ok)
    (hnd : (ts.map fun tb => String.ofList tb.name).Nodup)
    (hnul : ((String.ofList (tablesText ts)).toUTF8.toList.take 6).contains 0 = false) :
    ∃ lines, parse (String.ofList (tablesText ts)) =
      .ok ⟨ts.map Table.tree, ts.flatMap Table.keys, lines⟩ := by
  obtain ⟨ctx, hdoc⟩ := document_tables ts hok hnd
  obtain ⟨_, s, hrun, -, hs⟩ := hdoc { cur := { rest := tablesText ts } } rfl
  refine ⟨s.lines, ?_⟩
  unfold parse
  simp only [String.toList_ofList, if_neg (head?_tablesText ts), hnul, Bool.false_eq_true,
    if_false, hrun]
  rw [show s.root = ts.map Table.tree from congrArg View.root hs,
    show s.ordered = ts.flatMap Table.keys from congrArg View.ordered hs]

end DhcpDecoder.Toml
