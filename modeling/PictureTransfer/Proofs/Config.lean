import PictureTransfer.Config
import PictureTransfer.Proofs.Toml.Sections
import PictureTransfer.Proofs.Toml.Writing

/-!
# Saved configurations

A configuration is saved as a document with all its settings, and the document is read back as the
same configuration, whatever characters its texts have (`Config.survives_saving`). Texts and numbers
come back by `Toml.Document.read?_of_written`. What is left is that the statements make one table
for each section (`Config.ofStatements?_statements`), and that no setting of it is missed: it would
have its default then.

Numbers of more than 63 bits have no place in a document. The two settings of 64 bits are the only
ones that can be that large.
-/

namespace PictureTransfer

open Toml

namespace Section

section Setting

variable {α : Type} (decode : Toml.Value → Option α) (place : Nat) {key name : String} (default : α)
  (v : Toml.Value) (rest : Entries)

/-- The entry of a setting is its value. -/
theorem setting_cons_self :
    (named ((name, v) :: rest)).setting decode place name default = decode v := by
  rw [setting, value?, Entries.get?, if_pos rfl]

/-- An entry of another name is passed over. -/
theorem setting_cons_of_ne (other : key ≠ name) :
    (named ((key, v) :: rest)).setting decode place name default
      = (named rest).setting decode place name default := by
  rw [setting, value?, Entries.get?, if_neg other, setting, value?]

end Setting

end Section

namespace Config

/-! ## Settings -/

/-- A number below the bound is taken as it is. -/
theorem natBelow?_natCast {bound n : Nat} (below : n < bound) :
    natBelow? bound (.integer n) = some n := by
  rw [natBelow?, if_pos ⟨Int.natCast_nonneg n, Int.ofNat_lt.2 below⟩, Int.toNat_natCast]

theorem word16?_toNat (w : UInt16) : word16? (.integer w.toNat) = some w := by
  rw [word16?, natBelow?_natCast w.toNat_lt, Option.map_some, UInt16.ofNat_toNat]

theorem word64?_toNat (w : UInt64) : word64? (.integer w.toNat) = some w := by
  rw [word64?, natBelow?_natCast w.toNat_lt, Option.map_some, UInt64.ofNat_toNat]

/-! ## Tables of the sections -/

/-- The table that an identity is saved as. -/
def usbEntries (usb : Identity) : Entries :=
  [("vid", .integer usb.vid.toNat), ("pid", .integer usb.pid.toNat),
   ("bcd_device", .integer usb.bcdDevice.toNat), ("manufacturer", .text usb.manufacturer),
   ("product", .text usb.product), ("serial", .text usb.serial)]

/-- The table of the settings of the tunnel. -/
def proxyEntries (proxy : ProxySettings) : Entries :=
  [("port", .integer proxy.port.toNat), ("frame_timeout_ms", .integer proxy.frameTimeout.toNat),
   ("frame_budget", .integer proxy.frameBudget.toNat)]

/-- The table of the settings of the export. -/
def usbipEntries (usbip : ExportSettings) : Entries :=
  [("bind", .text usbip.bind), ("bus_id", .text usbip.busId)]

/-- What stands above the sections. -/
def top (c : Config) : Entries := [("personality", .text c.personality.name)]

/-- The sections that a configuration is saved as. -/
def sections (c : Config) : List (String × Entries) :=
  [("usb", usbEntries c.usb), ("proxy", proxyEntries c.proxy), ("usbip", usbipEntries c.usbip)]

/-- The table of the document. -/
def entries (c : Config) : Entries := c.top ++ c.sections.map sectionEntry

theorem identity?_usbEntries (origin : Origin) (usb : Identity) :
    identity? (.table origin (usbEntries usb)) = some usb := by
  rw [identity?, Section.ofValue?, Option.bind_eq_bind, Option.bind_some]
  dsimp only
  simp [usbEntries, Section.setting_cons_self, Section.setting_cons_of_ne, word16?_toNat, text?]

theorem proxy?_proxyEntries (origin : Origin) (proxy : ProxySettings) :
    proxy? (.table origin (proxyEntries proxy)) = some proxy := by
  rw [proxy?, Section.ofValue?, Option.bind_eq_bind, Option.bind_some]
  dsimp only
  simp [proxyEntries, Section.setting_cons_self, Section.setting_cons_of_ne, word16?_toNat,
    word64?_toNat]

theorem usbip?_usbipEntries (origin : Origin) (usbip : ExportSettings) :
    usbip? (.table origin (usbipEntries usbip)) = some usbip := by
  rw [usbip?, Section.ofValue?, Option.bind_eq_bind, Option.bind_some]
  dsimp only
  simp [usbipEntries, Section.setting_cons_self, Section.setting_cons_of_ne, text?]

/-- No setting of the document is missed. -/
theorem ofEntries?_entries (c : Config) : ofEntries? c.entries = some c := by
  have personality : personality? (.text c.personality.name) = some c.personality :=
    Personality.ofName?_name c.personality
  rw [ofEntries?]
  dsimp only
  simp [entries, top, sections, sectionEntry, Section.setting_cons_self,
    Section.setting_cons_of_ne, personality, identity?_usbEntries, proxy?_proxyEntries,
    usbip?_usbipEntries]

/-! ## The document -/

/-- The statements are those of the sections, and no key is given twice. -/
theorem ofStatements?_statements (c : Config) :
    Document.ofStatements? c.statements = some c.entries := by
  have apart : (c.entries.map Prod.fst).Nodup := by
    show ["personality", "usb", "proxy", "usbip"].Nodup
    decide
  have within : ∀ s ∈ c.sections, (s.2.map Prod.fst).Nodup := by
    simp only [sections, List.forall_mem_cons]
    refine ⟨?_, ?_, ?_, List.forall_mem_nil _⟩
    · show ["vid", "pid", "bcd_device", "manufacturer", "product", "serial"].Nodup
      decide
    · show ["port", "frame_timeout_ms", "frame_budget"].Nodup
      decide
    · show ["bind", "bus_id"].Nodup
      decide
  have shape : c.statements
      = c.top.map Statement.ofPair ++ c.sections.flatMap sectionStatements := rfl
  rw [shape]
  exact Document.ofStatements?_sections apart within

/-- The statements have one bare key each, and a text or a number that is not negative. -/
theorem statements_simple (c : Config) : ∀ st ∈ c.statements, Simple st := by
  simp only [statements, List.forall_mem_cons]
  exact ⟨.text (by decide) _,
    .table (by decide), .number (by decide) _, .number (by decide) _, .number (by decide) _,
      .text (by decide) _, .text (by decide) _, .text (by decide) _,
    .table (by decide), .number (by decide) _, .number (by decide) _, .number (by decide) _,
    .table (by decide), .text (by decide) _, .text (by decide) _, List.forall_mem_nil _⟩

/-- All statements can be written, if those of the two large numbers can. -/
theorem exists_written (c : Config) :
    (∃ text, Document.write? c.statements = some text) ↔
      c.proxy.frameTimeout.toNat ≤ 2 ^ 63 - 1 ∧ c.proxy.frameBudget.toNat ≤ 2 ^ 63 - 1 := by
  have small (w : UInt16) : w.toNat ≤ 2 ^ 63 - 1 :=
    Nat.le_trans (Nat.le_of_lt w.toNat_lt) (by decide)
  rw [Document.exists_written]
  simp only [statements, List.forall_mem_cons, Statement.exists_written_text,
    Statement.exists_written_number, Statement.exists_written_table, small, true_and,
    List.not_mem_nil, false_implies, implies_true, and_true]

/-! ## Saving -/

/-- The text of a saved configuration is that of its statements. -/
theorem toToml_eq_ok {c : Config} {text : String} :
    c.toToml = .ok text ↔ Document.write? c.statements = some text := by
  rw [toToml]
  split
  · next written => rw [written, Except.ok.injEq, Option.some.injEq]
  · next failed =>
    rw [failed]
    constructor <;> rintro ⟨⟩

/-- A configuration can be saved if its two numbers of 64 bits fit with a sign too, whatever its
texts are, and is then read back as it was. -/
theorem survives_saving (c : Config) :
    ((∃ text, c.toToml = .ok text) ↔
      c.proxy.frameTimeout.toNat ≤ 2 ^ 63 - 1 ∧ c.proxy.frameBudget.toNat ≤ 2 ^ 63 - 1) ∧
    ∀ text, c.toToml = .ok text → ofToml text = .ok c := by
  simp only [toToml_eq_ok]
  refine ⟨c.exists_written, fun text written => ?_⟩
  have table : Document.read? text = some c.entries := by
    rw [Document.read?_of_written c.statements_simple written, ofStatements?_statements]
  rw [ofToml, table, Option.bind_eq_bind, Option.bind_some, ofEntries?_entries]

/-- Texts with marks of both kinds, in threes and at the ends, with backslashes, line breaks,
control characters and other scripts, and the largest numbers there are. -/
theorem survives_saving_quoted :
    let c : Config :=
      { personality := .rawProxy
        usb :=
          { vid := 0xFFFF, pid := 0, bcdDevice := 0x8000
            manufacturer := "\n\"\"\"\"'''\""
            product := "'C:\\größe' \"日本語\" \x7f\x00\r\n"
            serial := "" }
        proxy :=
          { port := 0, frameTimeout := 9223372036854775807, frameBudget := 9223372036854775807 }
        usbip := { bind := "\\\"'", busId := "camera\"" } }
    ∃ text, c.toToml = .ok text ∧ ofToml text = .ok c := by
  intro c
  obtain ⟨saved, read⟩ := survives_saving c
  obtain ⟨text, written⟩ := saved.2 ⟨by decide, by decide⟩
  exact ⟨text, written, read text written⟩

end Config

end PictureTransfer
