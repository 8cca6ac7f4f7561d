import Mathlib
import DhcpDecoder.Proofs.TomlDocument
import DhcpDecoder.Settings.Config

/-!
Settings written out and loaded back, for any TOML writer and decoder that behave as TOML is
specified to (`Config.loadWith_encode`); `Config.toToml` and `decodeToml` are such a pair.
-/

namespace DhcpDecoder

open Toml

/-! ### Bytes of a text -/

theorem byteArray_toList_loop (bs : ByteArray) (i : Nat) (r : List UInt8) :
    ByteArray.toList.loop bs i r = r.reverse ++ bs.data.toList.drop i := by
  fun_induction ByteArray.toList.loop bs i r with
  | case1 i r h ih =>
    rw [ih]
    have hi : i < bs.data.toList.length := by simpa using h
    rw [List.drop_eq_getElem_cons hi]
    simp [ByteArray.get!, h]
  | case2 i r h =>
    have hi : bs.data.toList.length ≤ i := by simpa using h
    simp [List.drop_eq_nil_of_le hi]

theorem byteArray_toList_eq (bs : ByteArray) : bs.toList = bs.data.toList := by
  simp only [ByteArray.toList, byteArray_toList_loop, List.reverse_nil, List.nil_append,
    List.drop_zero]

namespace Config

/-- The TOML tables that the settings' tags give them: a table per group and a key per setting. -/
def tomlTables (c : Config) : List (String × Toml.Value) :=
  [("input", .table [("format", .str c.input.format), ("frame", .bool c.input.frame)]),
   ("output", .table [("format", .str c.output.format), ("validate", .bool c.output.validate),
      ("report", .bool c.output.report)]),
   ("listen", .table [("addr", .str c.listen.addr), ("metrics_addr", .str c.listen.metricsAddr),
      ("cors_origins", .arr (c.listen.corsOrigins.map .str)),
      ("max_frame_bytes", .int c.listen.maxFrameBytes),
      ("write_pcap", .str c.listen.writePcap), ("admin_token", .str c.listen.adminToken)]),
   ("log", .table [("level", .str c.log.level)])]

/-- Settings in the form loading leaves them: text without white space at either end, and origins
without it either, not empty and not ending in `/`. -/
structure Normal (c : Config) : Prop where
  texts : ∀ s ∈ [c.input.format, c.output.format, c.listen.addr, c.listen.metricsAddr,
    c.listen.writePcap, c.listen.adminToken, c.log.level], Text.trimSpace s = s
  origins : ∀ o ∈ c.listen.corsOrigins,
    Text.trimSpace o = o ∧ o ≠ "" ∧ o.toList.getLast? ≠ some '/'

theorem normalizeOrigins_normal {xs : List String}
    (h : ∀ o ∈ xs, Text.trimSpace o = o ∧ o ≠ "" ∧ o.toList.getLast? ≠ some '/') :
    normalizeOrigins xs = xs := by
  have hmap : ∀ o ∈ xs,
      String.ofList ((Text.trimSpace o).toList.reverse.dropWhile (· = '/')).reverse = o := by
    intro o ho
    obtain ⟨htrim, -, hslash⟩ := h o ho
    have hkeep : o.toList.reverse.dropWhile (· = '/') = o.toList.reverse := by
      cases hr : o.toList.reverse with
      | nil => rfl
      | cons d ds =>
        have hd : d ≠ '/' := by
          rintro rfl
          apply hslash
          rw [← List.head?_reverse, hr]
          rfl
        simp [hd]
    rw [htrim, hkeep, List.reverse_reverse, String.ofList_toList]
  unfold normalizeOrigins
  rw [List.map_congr_left hmap, List.map_id', List.filter_eq_self]
  intro o ho
  simpa using (h o ho).2.1

theorem settingKeys_eq : settingKeys =
    [("input", "format"), ("input", "frame"), ("output", "format"), ("output", "validate"),
     ("output", "report"), ("listen", "addr"), ("listen", "metrics_addr"),
     ("listen", "cors_origins"), ("listen", "max_frame_bytes"), ("listen", "write_pcap"),
     ("listen", "admin_token"), ("log", "level")] := rfl

theorem overlay_of_defined (d : Decoded) (hdef : ∀ p ∈ settingKeys, d.isDefined p.1 p.2 = true)
    (hn : d.raw.Normal) : overlay d = d.raw := by
  obtain ⟨htexts, horigins⟩ := hn
  simp only [List.mem_cons, List.not_mem_nil, or_false, forall_eq_or_imp, forall_eq] at htexts
  obtain ⟨h1, h2, h3, h4, h5, h6, h7⟩ := htexts
  simp only [settingKeys_eq, List.mem_cons, List.not_mem_nil, or_false, forall_eq_or_imp,
    forall_eq] at hdef
  obtain ⟨d1, d2, d3, d4, d5, d6, d7, d8, d9, d10, d11, d12⟩ := hdef
  -- every setting is defined, so each is taken from the decoded settings in turn
  simp [overlay, settingKeys_eq, take, d1, d2, d3, d4, d5, d6, d7, d8, d9, d10, d11,
    d12, h1, h2, h3, h4, h5, h6, h7, normalizeOrigins_normal horigins]

/-- Settings that pass their check and are in the form loading gives load back from what a TOML
writer writes, when the writer and the decoder behave as TOML is specified to. -/
theorem loadWith_encode (encode : Config → String) (decode : String → Except LoadError Decoded)
    (Denotes : String → List (String × Toml.Value) → Prop) (c : Config)
    (emits : Denotes (encode c) c.tomlTables)
    (decodes : ∀ text, Denotes text c.tomlTables → ∃ d, decode text = .ok d ∧ d.raw = c ∧
      d.undecoded = [] ∧ ∀ p ∈ settingKeys, d.isDefined p.1 p.2 = true)
    (hc : c.check = none) (hn : c.Normal) :
    loadWith decode (encode c) = .ok c := by
  obtain ⟨d, hd, hraw, hund, hdef⟩ := decodes _ emits
  have hover : overlay d = c := by
    rw [overlay_of_defined d hdef (hraw ▸ hn), hraw]
  rw [loadWith, hd]
  simp only [bind, Except.bind, hund, hover, hc]

/-! ### The TOML writer and reader -/

def writtenTables (c : Config) : List Table :=
  [⟨"input".toList, [("format".toList, .text c.input.format),
      ("frame".toList, .flag c.input.frame)]⟩,
   ⟨"output".toList, [("format".toList, .text c.output.format),
      ("validate".toList, .flag c.output.validate), ("report".toList, .flag c.output.report)]⟩,
   ⟨"listen".toList, [("addr".toList, .text c.listen.addr),
      ("metrics_addr".toList, .text c.listen.metricsAddr),
      ("cors_origins".toList, .texts c.listen.corsOrigins),
      ("max_frame_bytes".toList, .count c.listen.maxFrameBytes.toNat),
      ("write_pcap".toList, .text c.listen.writePcap),
      ("admin_token".toList, .text c.listen.adminToken)]⟩,
   ⟨"log".toList, [("level".toList, .text c.log.level)]⟩]

theorem flag_toList (b : Bool) : (if b then "true" else "false").toList = flagChars b := by
  cases b <;> rfl

theorem toString_toList {n : Int} (h : 0 ≤ n) : (toString n).toList = Nat.toDigits 10 n.toNat := by
  obtain ⟨m, rfl⟩ := Int.eq_ofNat_of_zero_le h
  simp [toString, Int.repr, Nat.repr]

set_option maxRecDepth 10000 in
theorem toToml_eq (c : Config) (h : 0 ≤ c.listen.maxFrameBytes) :
    c.toToml = String.ofList (tablesText c.writtenTables) := by
  apply String.toList_injective
  rw [String.toList_ofList]
  unfold toToml
  dsimp only
  simp only [String.toList_append, flag_toList, toString_toList h]
  simp only [writtenTables, tablesText, List.map_cons, List.map_nil, List.intercalate_cons_cons,
    List.intercalate_singleton, Table.chars, Table.entryChars, Written.chars, List.flatMap_cons,
    List.flatMap_nil, List.append_nil]
  simp only [String.reduceToList, List.append_assoc, List.cons_append, List.nil_append]

theorem toToml_head (c : Config) : (c.toToml.toUTF8.toList.take 6).contains 0 = false := by
  obtain ⟨rest, hrest⟩ : ∃ rest, c.toToml = "[input]\n" ++ rest :=
    ⟨_, by unfold toToml; simp only [String.append_assoc]; rfl⟩
  rw [hrest, String.toUTF8_eq_toByteArray, String.toByteArray_append, byteArray_toList_eq,
    ByteArray.toList_data_append, List.take_append_of_le_length (by decide)]
  decide

theorem writtenTables_ok (c : Config) (h : c.listen.maxFrameBytes.toNat < 9223372036854775808) :
    ∀ tb ∈ c.writtenTables, tb.Ok := by
  intro tb htb
  simp only [writtenTables, List.mem_cons, List.not_mem_nil, or_false] at htb
  -- names, keys and their order are fixed; only the frame limit has a bound to meet
  rcases htb with rfl | rfl | rfl | rfl
  all_goals
    refine ⟨by dsimp only; decide, by simp only [List.map_cons, List.map_nil]; decide,
      fun e he => ?_, by simp only [List.map_cons, List.map_nil, String.ofList_toList]; decide⟩
    simp only [List.mem_cons, List.not_mem_nil, or_false] at he
    rcases he with rfl | rfl | rfl | rfl | rfl | rfl <;> simp [Written.Fits, h]

theorem writtenTables_tree (c : Config) : c.writtenTables.map Table.tree =
    [("input", .table [("format", .str c.input.format), ("frame", .bool c.input.frame)]),
     ("output", .table [("format", .str c.output.format), ("validate", .bool c.output.validate),
        ("report", .bool c.output.report)]),
     ("listen", .table [("addr", .str c.listen.addr), ("metrics_addr", .str c.listen.metricsAddr),
        ("cors_origins", .arr (c.listen.corsOrigins.map .str)),
        ("max_frame_bytes", .int c.listen.maxFrameBytes.toNat),
        ("write_pcap", .str c.listen.writePcap), ("admin_token", .str c.listen.adminToken)]),
     ("log", .table [("level", .str c.log.level)])] := by
  simp [writtenTables, Table.tree, Written.value]

theorem writtenTables_keys (c : Config) : c.writtenTables.flatMap Table.keys =
    [["input"], ["input", "format"], ["input", "frame"], ["output"], ["output", "format"],
     ["output", "validate"], ["output", "report"], ["listen"], ["listen", "addr"],
     ["listen", "metrics_addr"], ["listen", "cors_origins"], ["listen", "max_frame_bytes"],
     ["listen", "write_pcap"], ["listen", "admin_token"], ["log"], ["log", "level"]] := by
  simp [writtenTables, Table.keys]

theorem parse_toToml (c : Config) (h0 : 0 ≤ c.listen.maxFrameBytes)
    (h : c.listen.maxFrameBytes.toNat < 9223372036854775808) :
    ∃ lines, parse c.toToml =
      .ok ⟨c.writtenTables.map Table.tree, c.writtenTables.flatMap Table.keys, lines⟩ := by
  have hnd : (c.writtenTables.map fun tb => String.ofList tb.name).Nodup := by
    simp only [writtenTables, List.map_cons, List.map_nil, String.ofList_toList]
    decide
  rw [toToml_eq c h0] at ⊢
  refine parse_tables c.writtenTables (writtenTables_ok c h) hnd ?_
  rw [← toToml_eq c h0]
  exact toToml_head c

def writtenValues (c : Config) : List (String × String × Toml.Value) :=
  [("input", "format", .str c.input.format), ("input", "frame", .bool c.input.frame),
   ("output", "format", .str c.output.format), ("output", "validate", .bool c.output.validate),
   ("output", "report", .bool c.output.report), ("listen", "addr", .str c.listen.addr),
   ("listen", "metrics_addr", .str c.listen.metricsAddr),
   ("listen", "cors_origins", .arr (c.listen.corsOrigins.map .str)),
   ("listen", "max_frame_bytes", .int c.listen.maxFrameBytes.toNat),
   ("listen", "write_pcap", .str c.listen.writePcap),
   ("listen", "admin_token", .str c.listen.adminToken),
   ("log", "level", .str c.log.level)]

theorem matchTables_written (c : Config) (doc : Document) :
    matchTables doc (c.writtenTables.map Table.tree) {} =
      .ok ⟨c.writtenValues, c.writtenTables.flatMap Table.keys⟩ := by
  have hnone : ∀ l : List String, l.find? (fun _ => false) = none := fun l => by simp
  rw [writtenTables_tree, writtenTables_keys]
  simp +decide [writtenValues, matchTables, matchKeys, settingTables, SettingType.check?, hnone,
    bind, Except.bind]

theorem textsOf_strings (xs : List String) : textsOf (.arr (xs.map .str)) = xs := by
  simp [textsOf, List.filterMap_map]

theorem check_frameBytes {c : Config} (hc : c.check = none) :
    240 ≤ c.listen.maxFrameBytes ∧ c.listen.maxFrameBytes ≤ 65535 := by
  unfold check at hc
  split_ifs at hc with _ _ _ _ hb
  simp only [Bool.or_eq_true, decide_eq_true_eq, not_or, not_lt] at hb
  omega

def tablePaths (tables : List (String × Toml.Value)) : List (List String) :=
  tables.flatMap fun (t, v) => [t] :: match v with
    | .table ms => ms.map fun m => [t, m.1]
    | _ => []

def ReadsAs (text : String) (tables : List (String × Toml.Value)) : Prop :=
  ∃ doc : Document, parse text = .ok doc ∧ doc.root = tables ∧ doc.ordered = tablePaths tables

theorem tomlTables_written (c : Config) (h0 : 0 ≤ c.listen.maxFrameBytes) :
    c.writtenTables.map Table.tree = c.tomlTables := by
  rw [writtenTables_tree, tomlTables, Int.toNat_of_nonneg h0]

theorem tablePaths_tomlTables (c : Config) :
    tablePaths c.tomlTables = c.writtenTables.flatMap Table.keys := by
  simp [writtenTables_keys, tablePaths, tomlTables]

theorem toToml_readsAs (c : Config) (hc : c.check = none) : ReadsAs c.toToml c.tomlTables := by
  obtain ⟨hlo, hhi⟩ := check_frameBytes hc
  obtain ⟨lines, hparse⟩ := parse_toToml c (by omega) (by omega)
  exact ⟨_, hparse, tomlTables_written c (by omega), (tablePaths_tomlTables c).symm⟩

theorem setValue_written (c : Config) (h0 : 0 ≤ c.listen.maxFrameBytes) :
    c.writtenValues.foldl (fun c' (v : String × String × Toml.Value) => c'.setValue v.1 v.2.1 v.2.2)
      blank = c := by
  simp [writtenValues, blank, setValue, textOf, flagOf, numberOf, textsOf_strings,
    Int.toNat_of_nonneg h0]

theorem isDefined_tomlTables {doc : Document} {c : Config} (hroot : doc.root = c.tomlTables) :
    ∀ p ∈ settingKeys, isDefined doc p.1 p.2 = true := by
  intro p hp
  simp only [settingKeys_eq, List.mem_cons, List.not_mem_nil, or_false] at hp
  rcases hp with rfl | rfl | rfl | rfl | rfl | rfl | rfl | rfl | rfl | rfl | rfl | rfl <;>
    simp [isDefined, hroot, tomlTables]

theorem decodeToml_of_readsAs (c : Config) (hc : c.check = none) (text : String)
    (h : ReadsAs text c.tomlTables) :
    ∃ d, decodeToml text = .ok d ∧ d.raw = c ∧ d.undecoded = [] ∧
      ∀ p ∈ settingKeys, d.isDefined p.1 p.2 = true := by
  have h0 : 0 ≤ c.listen.maxFrameBytes := by
    have := check_frameBytes hc
    omega
  obtain ⟨doc, hparse, hroot, hordered⟩ := h
  have hmatch : matchTables doc doc.root {} =
      .ok ⟨c.writtenValues, c.writtenTables.flatMap Table.keys⟩ := by
    rw [hroot, ← tomlTables_written c h0, matchTables_written]
  have hdecode : decodeToml text = .ok ⟨c.writtenValues.foldl
      (fun c' (v : String × String × Toml.Value) => c'.setValue v.1 v.2.1 v.2.2) blank,
      isDefined doc, doc.ordered.filter fun k => !(c.writtenTables.flatMap Table.keys).contains k⟩ := by
    rw [decodeToml, hparse]
    simp only [Except.mapError, bind, Except.bind, hmatch]
    rfl
  refine ⟨_, hdecode, setValue_written c h0, ?_, isDefined_tomlTables hroot⟩
  -- the document defines exactly the keys that matching took
  rw [List.filter_eq_nil_iff, hordered, tablePaths_tomlTables]
  intro k hk
  simp [hk]

theorem load_toToml_with_origin :
    check ({ listen := { corsOrigins := ["http://localhost:3000"] } } : Config) = none ∧
      Normal ({ listen := { corsOrigins := ["http://localhost:3000"] } } : Config) ∧
      load ({ listen := { corsOrigins := ["http://localhost:3000"] } } : Config).toToml =
        .ok { listen := { corsOrigins := ["http://localhost:3000"] } } :=
  have hc : check ({ listen := { corsOrigins := ["http://localhost:3000"] } } : Config) = none := by
    decide
  have hn : Normal ({ listen := { corsOrigins := ["http://localhost:3000"] } } : Config) :=
    ⟨by decide, by decide⟩
  ⟨hc, hn, loadWith_encode toToml decodeToml ReadsAs _ (toToml_readsAs _ hc)
    (decodeToml_of_readsAs _ hc) hc hn⟩

end Config

end DhcpDecoder
