import FileMode.Proofs.AllOrNothing
import FileMode.Proofs.BrokenWalks
import FileMode.Proofs.PermissionWrites

namespace FileMode

namespace Errno

lemma pairwise_names : names.Pairwise fun a b => a.1 < b.1 := by
  have hkeys : (names.map Prod.fst).IsChain (· < ·) := by decide +kernel
  exact List.pairwise_map.mp hkeys.pairwise

lemma name?_eq_some_iff {n : ℤ} {code : String} : name? n = some code ↔ (n, code) ∈ names := by
  rw [name?, List.lookup_eq_some_iff]
  refine ⟨?_, ?_⟩
  · rintro ⟨before, after, hnames, -⟩
    rw [hnames]
    exact List.mem_append_right before List.mem_cons_self
  · intro hmem
    obtain ⟨before, after, hnames⟩ := List.append_of_mem hmem
    refine ⟨before, after, hnames, ?_⟩
    intro p hp
    have hordered := pairwise_names
    rw [hnames] at hordered
    have hlt := (List.pairwise_append.mp hordered).2.2 p hp (n, code) List.mem_cons_self
    exact bne_iff_ne.mpr (Int.ne_of_gt hlt)

lemma eq_two_of_mem {n : ℤ} (h : (n, "ENOENT") ∈ names) : n = 2 := by
  have hall : ∀ p ∈ names, p.2 = "ENOENT" → p.1 = 2 := by decide +kernel
  exact hall _ h rfl

lemma name?_eq_ENOENT_iff {n : ℤ} : name? n = some "ENOENT" ↔ n = 2 := by
  refine ⟨fun h => eq_two_of_mem (name?_eq_some_iff.mp h), ?_⟩
  rintro rfl
  rfl

end Errno

namespace Lowercase

lemma lowerChar_ne_nil (before : List Char) (c : Char) (after : List Char) :
    lowerChar before c after ≠ [] := by
  rw [lowerChar]
  split_ifs <;> simp

lemma lower_ne_empty {s : String} (hne : s ≠ "") : lower s ≠ "" := by
  intro hempty
  obtain ⟨c, cs, hs⟩ := List.exists_cons_of_ne_nil (mt String.toList_eq_nil_iff.mp hne)
  rw [lower, hs, lowerFrom, String.ofList_eq_empty_iff, List.append_eq_nil_iff] at hempty
  exact lowerChar_ne_nil _ _ _ hempty.1

end Lowercase

structure Reports (operation path : String) (f : Fault) (err : SystemError) : Prop where
  call_eq : err.call = ⟨operation, some path⟩
  code_of_named : ∀ n code, f.errno = some n → (n, code) ∈ Errno.names → err.code = code
  code_of_unnamed : (∀ n code, f.errno = some n → (n, code) ∉ Errno.names) → err.code = "EIO"
  isNotFound_iff : err.isNotFound = true ↔ f.errno = some 2
  message_of_described : ∀ d, f.description = some d → d ≠ "" →
    err.message =
      err.code ++ ": " ++ Lowercase.lower d ++ ", " ++ operation ++ " '" ++ path ++ "'"
  message_of_undescribed : (∀ d, f.description = some d → d = "") →
    err.message = err.code ++ ": " ++ err.code ++ ", " ++ operation ++ " '" ++ path ++ "'"

namespace SystemError

variable (call : Call) (f : Fault)

lemma code_ofFault_of_named {n : ℤ} {code : String} (hn : f.errno = some n)
    (hmem : (n, code) ∈ Errno.names) : (ofFault call f).code = code := by
  rw [ofFault, hn, Option.bind_some, Errno.name?_eq_some_iff.mpr hmem, Option.getD_some]

lemma code_ofFault_of_unnamed (h : ∀ n code, f.errno = some n → (n, code) ∉ Errno.names) :
    (ofFault call f).code = "EIO" := by
  have hnone : f.errno.bind Errno.name? = none := by
    rw [Option.bind_eq_none_iff]
    intro n hn
    rw [Option.eq_none_iff_forall_ne_some]
    exact fun code hcode => h n code hn (Errno.name?_eq_some_iff.mp hcode)
  rw [ofFault, hnone, Option.getD_none]

lemma isNotFound_ofFault_iff : (ofFault call f).isNotFound = true ↔ f.errno = some 2 := by
  have hname : (f.errno.bind Errno.name?).getD "EIO" = "ENOENT" ↔
      ∃ n, f.errno = some n ∧ Errno.name? n = some "ENOENT" := by
    rw [← Option.bind_eq_some_iff]
    cases f.errno.bind Errno.name? <;> simp
  rw [isNotFound, beq_iff_eq, ofFault, hname]
  simp only [Errno.name?_eq_ENOENT_iff, exists_eq_right]

lemma reports_ofFault (operation path : String) :
    Reports operation path f (ofFault ⟨operation, some path⟩ f) where
  call_eq := rfl
  code_of_named _ _ := code_ofFault_of_named _ f
  code_of_unnamed := code_ofFault_of_unnamed _ f
  isNotFound_iff := isNotFound_ofFault_iff _ f
  message_of_described d hd hne := by
    have hbase : (ofFault ⟨operation, some path⟩ f).base = Lowercase.lower d := by
      simp [base, ofFault, hd, Lowercase.lower_ne_empty hne]
    rw [message, hbase]
    simp only [ofFault, String.append_assoc]
  message_of_undescribed h := by
    have hbase : (ofFault ⟨operation, some path⟩ f).base =
        (ofFault ⟨operation, some path⟩ f).code := by
      cases hd : f.description with
      | none => simp [base, ofFault, hd]
      | some d =>
        obtain rfl := h d hd
        have hlower : Lowercase.lower "" = "" := rfl
        simp [base, ofFault, hd, hlower]
    rw [message, hbase]
    simp only [ofFault, String.append_assoc]

end SystemError

namespace FileSystem

namespace Host

variable {h : Host} {path : String} {f : Fault}

lemma stat_reports (hbreaks : Breaks h.files Entry.statFault false 41 path f) :
    ∃ err, (h.stat path).result = .error err ∧ Reports "lstat" path f err := by
  refine ⟨_, ?_, SystemError.reports_ofFault f "lstat" path⟩
  rw [stat, Table.walk_eq_error_iff.mpr hbreaks]

lemma chmod_reports_unread (hbreaks : Breaks h.files Entry.statFault true 41 path f)
    (spec : Argument) (o : Options) :
    ∃ err, (h.chmod path spec o).result = .error err ∧ Reports "chmod" path f err := by
  refine ⟨_, ?_, SystemError.reports_ofFault f "chmod" path⟩
  rw [chmod_of_unread (Table.walk_eq_error_iff.mpr hbreaks)]

lemma chmod_reports_unwritten {spec : Argument} {o : Options} {es : List Entry} {target : String}
    {e : Entry} {m : Mode} (hreaches : Reaches h.files Entry.statFault path es target e)
    (hturns : spec.Turns o e.status.mode m)
    (hbreaks : Breaks h.files Entry.chmodFault true 41 path f) :
    ∃ err, (h.chmod path spec o).result = .error err ∧ Reports "chmod" path f err := by
  obtain ⟨s, rfl, hne, hchange⟩ := hturns
  refine ⟨_, ?_, SystemError.reports_ofFault f "chmod" path⟩
  rw [chmod_of_unwritten hreaches.walk_eq (Call.guardedChange_of_change _ hchange)
    (Table.walk_eq_error_iff.mpr hbreaks)]

lemma chmod_dangling {es : List Entry} {last : String} (hchain : Chain h.files path es last)
    (hlength : es.length ≤ 40) (hclear : ∀ e ∈ es, e.statFault = none)
    (hnone : h.files.find? last = none) (spec : Argument) (o : Options) :
    ∃ err, (h.chmod path spec o).result = .error err ∧ err.code = "ENOENT" := by
  have hbreaks := Breaks.absent ⟨hchain, hclear, fun _ => rfl⟩ (Nat.lt_succ_of_le hlength) hnone
  obtain ⟨err, herr, hreports⟩ := chmod_reports_unread hbreaks spec o
  exact ⟨err, herr, hreports.code_of_named 2 "ENOENT" rfl (by decide)⟩

lemma chmod_endless (hendless : Endless h.files path)
    (hclear : ∀ es last, Chain h.files path es last → ∀ e ∈ es, e.statFault = none)
    (spec : Argument) (o : Options) :
    ∃ err, (h.chmod path spec o).result = .error err ∧ err.code = "ELOOP" := by
  obtain ⟨es, last, hchain, hlength⟩ := hendless.exists_chain 41
  have hbreaks := Breaks.tooManyLinks ⟨hchain, hclear es last hchain, fun _ => rfl⟩ hlength
  obtain ⟨err, herr, hreports⟩ := chmod_reports_unread hbreaks spec o
  exact ⟨err, herr, hreports.code_of_named 40 "ELOOP" rfl (by decide)⟩

lemma chmod_cycle {tail cycle : List Entry} {p : String} (htail : Chain h.files path tail p)
    (hcycle : Chain h.files p cycle p) (hne : cycle ≠ [])
    (hclear : ∀ e ∈ tail ++ cycle, e.statFault = none) (spec : Argument) (o : Options) :
    ∃ err, (h.chmod path spec o).result = .error err ∧ err.code = "ELOOP" := by
  refine chmod_endless ?_ ?_ spec o
  · intro es last hchain
    exact (hchain.returns htail hcycle hne).2
  · intro es last hchain e he
    exact hclear e ((hchain.returns htail hcycle hne).1 e he)

end Host

theorem failures_reported (h : Host) (path : String) :
    (∀ fault follow f, h.files.walk fault follow path = .error f ↔
      Breaks h.files fault follow 41 path f) ∧
    (∀ f, Breaks h.files Entry.statFault false 41 path f →
      ∃ err, (h.stat path).result = .error err ∧ Reports "lstat" path f err) ∧
    ∀ spec o,
      (∀ f, Breaks h.files Entry.statFault true 41 path f →
        ∃ err, (h.chmod path spec o).result = .error err ∧ Reports "chmod" path f err) ∧
      (∀ es target e m f, Reaches h.files Entry.statFault path es target e →
        spec.Turns o e.status.mode m → Breaks h.files Entry.chmodFault true 41 path f →
        ∃ err, (h.chmod path spec o).result = .error err ∧ Reports "chmod" path f err) ∧
      (∀ es last, Chain h.files path es last → es.length ≤ 40 →
        (∀ e ∈ es, e.statFault = none) → h.files.find? last = none →
        ∃ err, (h.chmod path spec o).result = .error err ∧ err.code = "ENOENT") ∧
      (Endless h.files path →
        (∀ es last, Chain h.files path es last → ∀ e ∈ es, e.statFault = none) →
        ∃ err, (h.chmod path spec o).result = .error err ∧ err.code = "ELOOP") ∧
      ∀ tail cycle p, Chain h.files path tail p → Chain h.files p cycle p → cycle ≠ [] →
        (∀ e ∈ tail ++ cycle, e.statFault = none) →
        ∃ err, (h.chmod path spec o).result = .error err ∧ err.code = "ELOOP" := by
  refine ⟨fun _ _ _ => Table.walk_eq_error_iff, fun _ => Host.stat_reports, ?_⟩
  intro spec o
  exact ⟨fun _ hbreaks => Host.chmod_reports_unread hbreaks spec o,
    fun _ _ _ _ _ => Host.chmod_reports_unwritten,
    fun _ _ hchain hlength hclear hnone =>
      Host.chmod_dangling hchain hlength hclear hnone spec o,
    fun hendless hclear => Host.chmod_endless hendless hclear spec o,
    fun _ _ _ htail hcycle hne hclear => Host.chmod_cycle htail hcycle hne hclear spec o⟩

def linkTo (path : String) : Entry := { linkEntry with link := some path }

def oddEntry : Entry := { homeEntry with statFault := some ⟨some 41, some "ODD Fault"⟩ }

def tangledHost : Host where
  files := .ofList [("odd", oddEntry), ("way", linkTo "odd"), ("sealed", sealedEntry),
    ("seal", linkTo "sealed"), ("astray", linkTo "gone"), ("tail", linkTo "ring"),
    ("ring", linkTo "back"), ("back", linkTo "ring")]
  mask := 0o022

theorem failures_reported_tangled :
    (Breaks tangledHost.files Entry.statFault false 41 "odd" ⟨some 41, some "ODD Fault"⟩ ∧
      ∃ err, (tangledHost.stat "odd").result = .error err ∧
        Reports "lstat" "odd" ⟨some 41, some "ODD Fault"⟩ err) ∧
    (Breaks tangledHost.files Entry.statFault true 41 "way" ⟨some 41, some "ODD Fault"⟩ ∧
      ∃ err, (tangledHost.chmod "way" (.text "") {}).result = .error err ∧
        err.message = "EIO: odd fault, chmod 'way'") ∧
    (Reaches tangledHost.files Entry.statFault "seal" [linkTo "sealed", sealedEntry] "sealed"
        sealedEntry ∧
      (Argument.text "u+x").Turns {} sealedEntry.status.mode (.ofInt 0o100744) ∧
      Breaks tangledHost.files Entry.chmodFault true 41 "seal" ⟨some 30, none⟩ ∧
      ∃ err, (tangledHost.chmod "seal" (.text "u+x") {}).result = .error err ∧
        Reports "chmod" "seal" ⟨some 30, none⟩ err) ∧
    (Chain tangledHost.files "astray" [linkTo "gone"] "gone" ∧
      tangledHost.files.find? "gone" = none ∧
      ∃ err, (tangledHost.chmod "astray" .null {}).result = .error err ∧ err.code = "ENOENT") ∧
    (Chain tangledHost.files "tail" [linkTo "ring"] "ring" ∧
      Chain tangledHost.files "ring" [linkTo "back", linkTo "ring"] "ring" ∧
      ∃ err, (tangledHost.chmod "tail" (.text "u+x") {}).result = .error err ∧
        err.code = "ELOOP") ∧
    (Endless tangledHost.files "back" ∧
      ∃ err, (tangledHost.chmod "back" (.text "u+x") {}).result = .error err ∧
        err.code = "ELOOP") := by
  have hodd : Breaks tangledHost.files Entry.statFault false 41 "odd"
      ⟨some 41, some "ODD Fault"⟩ :=
    .atFault .here (by decide) (e := oddEntry) (by decide) rfl
  have hway : Breaks tangledHost.files Entry.statFault true 41 "way"
      ⟨some 41, some "ODD Fault"⟩ :=
    .link (by decide) (e := linkTo "odd") rfl rfl
      (.atFault .here (by decide) (e := oddEntry) (by decide) rfl)
  have hsealed : Reaches tangledHost.files Entry.statFault "seal" [linkTo "sealed", sealedEntry]
      "sealed" sealedEntry :=
    ⟨.link (by decide) rfl (.arrival (by decide) rfl), by decide, by decide⟩
  have hturns : (Argument.text "u+x").Turns {} sealedEntry.status.mode (.ofInt 0o100744) :=
    ⟨"u+x", rfl, by decide, by decide⟩
  have hseal : Breaks tangledHost.files Entry.chmodFault true 41 "seal" ⟨some 30, none⟩ :=
    .link (by decide) (e := linkTo "sealed") rfl rfl
      (.atFault .here (by decide) (e := sealedEntry) (by decide) rfl)
  have hastray : Chain tangledHost.files "astray" [linkTo "gone"] "gone" :=
    .link (by decide) rfl (.here "gone")
  have htail : Chain tangledHost.files "tail" [linkTo "ring"] "ring" :=
    .link (by decide) rfl (.here "ring")
  have hring : Chain tangledHost.files "ring" [linkTo "back", linkTo "ring"] "ring" :=
    .link (by decide) rfl (.link (by decide) rfl (.here "ring"))
  have hback : Chain tangledHost.files "back" [linkTo "ring"] "ring" :=
    .link (by decide) rfl (.here "ring")
  have hreturns := fun es last (hchain : Chain tangledHost.files "back" es last) =>
    hchain.returns hback hring (by simp)
  have hendless : Endless tangledHost.files "back" :=
    fun es last hchain => (hreturns es last hchain).2
  have hclear : ∀ es last, Chain tangledHost.files "back" es last →
      ∀ e ∈ es, e.statFault = none := by
    intro es last hchain e he
    have hall : ∀ e ∈ [linkTo "ring"] ++ [linkTo "back", linkTo "ring"], e.statFault = none := by
      decide
    exact hall e ((hreturns es last hchain).1 e he)
  have hunnamed : ∀ n code, some (41 : ℤ) = some n → (n, code) ∉ Errno.names := by
    rintro n code hn hmem
    obtain rfl := Option.some.inj hn
    cases Errno.name?_eq_some_iff.mpr hmem
  refine ⟨⟨hodd, (failures_reported tangledHost "odd").2.1 _ hodd⟩, ⟨hway, ?_⟩,
    ⟨hsealed, hturns, hseal, ?_⟩, ⟨hastray, by decide, ?_⟩, ⟨htail, hring, ?_⟩, hendless, ?_⟩
  · obtain ⟨err, herr, hreports⟩ :=
      ((failures_reported tangledHost "way").2.2 (.text "") {}).1 _ hway
    refine ⟨err, herr, ?_⟩
    rw [hreports.message_of_described _ rfl (by decide), hreports.code_of_unnamed hunnamed]
    decide
  · exact ((failures_reported tangledHost "seal").2.2 (.text "u+x") {}).2.1 _ _ _ _ _
      hsealed hturns hseal
  · exact ((failures_reported tangledHost "astray").2.2 .null {}).2.2.1 _ _ hastray (by decide)
      (by decide) (by decide)
  · exact ((failures_reported tangledHost "tail").2.2 (.text "u+x") {}).2.2.2.2 _ _ _ htail hring
      (by simp) (by decide)
  · exact ((failures_reported tangledHost "back").2.2 (.text "u+x") {}).2.2.2.1 hendless hclear

end FileSystem

end FileMode
