-- SUMMARY: Which connection strings tell the parameters they were made from, and which do not.
import Mathlib.Data.List.Basic
import Mathlib.Data.Set.Image
import SqlCatalog.Proofs.Cuts
import SqlCatalog.Proofs.Digits
import SqlCatalog.Sql.Connection

/-!
# Connection strings

The values of a connection string stand between fixed marks and are not quoted, so
a value that holds such a mark reads as several. Read from the left, each value ends
where its mark occurs first. Every string has exactly one such reading: a connection
is told by its string among those that are read back this way, and any other shares
its string with one of them.
-/

namespace SqlCatalog.Sql.Connection

/-! ## Marks of a connection string -/

/-- What stands between the host and the user. -/
def portMark (port : UInt16) : List Char :=
  ' ' :: ("port=".toList ++ (toString port.toNat).toList ++ ' ' :: "user=".toList)

def passwordMark : List Char := ' ' :: "password=".toList

def databaseMark : List Char := ' ' :: "dbname=".toList

theorem blank_notMem_port (port : UInt16) :
    ' ' ∉ "port=".toList ++ (toString port.toNat).toList := by
  rw [List.mem_append, not_or]
  refine ⟨by decide, fun hmem => ?_⟩
  exact absurd (Text.isDigit_of_mem_digits hmem) (by decide)

/-- The first blank after a port tells its digits from what follows. -/
theorem portMark_append_inj {port port' : UInt16} {rest rest' : List Char}
    (h : portMark port ++ rest = portMark port' ++ rest') : port = port' ∧ rest = rest' := by
  have hblank (p : UInt16) := List.count_eq_zero.2 (blank_notMem_port p)
  have hwords : ("port=".toList ++ (toString port.toNat).toList) ++
        ' ' :: ("user=".toList ++ rest) =
      ("port=".toList ++ (toString port'.toNat).toList) ++ ' ' :: ("user=".toList ++ rest') := by
    simpa only [portMark, List.cons_append, List.append_assoc, List.cons.injEq, true_and] using h
  obtain ⟨hport, hrest⟩ := Text.cut_unique ((hblank port).trans (hblank port').symm) hwords
  have hdigits := String.toList_inj.1 (List.append_cancel_left hport)
  exact ⟨UInt16.toNat_inj.1 (Text.digits_injective hdigits),
    List.append_cancel_left hrest⟩

/-- A second mark could start at the blank in the middle of one only, and another word follows
there. -/
def portMarks : Text.Marks where
  texts := Set.range portMark
  nonempty := by
    rintro _ ⟨port, rfl⟩
    exact List.cons_ne_nil _ _
  apart := by
    rintro _ ⟨port, rfl⟩ _ ⟨port', rfl⟩ x y rest rest' hsplit hnext
    by_contra hboth
    obtain ⟨hx, hy⟩ := not_or.1 hboth
    obtain ⟨before, after, hwords, hletters⟩ :=
      Text.Marks.exists_blank_of_overlap hx hy hsplit hnext
    obtain ⟨-, -, rfl⟩ :=
      (List.append_cons_inj_of_notMem (blank_notMem_port port) (by decide)).1 hwords
    exact absurd (List.cons.inj hletters).1 (by decide)

def passwordMarks : Text.Marks := .word "password=".toList (by decide)

def databaseMarks : Text.Marks := .word "dbname=".toList (by decide)

/-! ## Strings -/

def databaseClause (name : String) : List Char :=
  if name = "" then [] else databaseMark ++ name.toList

theorem databaseClause_empty : databaseClause "" = [] := rfl

theorem databaseClause_of_ne {name : String} (h : name ≠ "") :
    databaseClause name = databaseMark ++ name.toList := if_neg h

/-- What stands after the host, the port and the user. -/
def secrets (c : Connection) : List Char :=
  c.password.toList ++ databaseClause (c.database.getD "")

def values (c : Connection) : List Char :=
  c.host.toList ++ (portMark c.port ++ (c.user.toList ++ (passwordMark ++ c.secrets)))

theorem toList_databaseText (database : Option String) :
    (" " ++ databaseText database ++ "sslmode=disable").toList =
      databaseClause (database.getD "") ++ " sslmode=disable".toList := by
  cases database with
  | none => rfl
  | some name =>
    by_cases hname : name = ""
    · subst hname
      rfl
    · simp only [databaseText, if_neg hname, Option.getD_some, databaseClause_of_ne hname,
        String.toList_append, List.append_assoc]
      rfl

theorem toList_render (c : Connection) :
    c.render.toList = "host=".toList ++ (c.values ++ " sslmode=disable".toList) := by
  have hend := toList_databaseText c.database
  rw [String.toList_append, String.toList_append, List.append_assoc] at hend
  -- The equation of `render` takes seconds to make.
  delta render
  simp only [values, secrets, portMark, passwordMark, String.toList_append, List.cons_append,
    List.append_assoc, ← hend]
  rfl

theorem render_eq_iff {c c' : Connection} : c.render = c'.render ↔ c.values = c'.values := by
  rw [← String.toList_inj, toList_render, toList_render, List.append_right_inj,
    List.append_left_inj]

/-! ## Reading from the left -/

/-- The parameters of a connection; an empty database name counts as none. -/
def parameters (c : Connection) : String × UInt16 × String × String × String :=
  (c.host, c.port, c.user, c.password, c.database.getD "")

/-- The password ends where its mark occurs first: the mark of the database is not in it, unless
it ends the password and no database follows. -/
def EndsPassword (password : List Char) (database : String) : Prop :=
  ∀ before after, password = before ++ (databaseMark ++ after) → after = [] ∧ database = ""

/-- Every value ends where its mark occurs first. -/
structure Unmarked (c : Connection) : Prop where
  host : ∀ port, ¬ portMark port <:+: c.host.toList
  user : ¬ passwordMark <:+: c.user.toList
  password : EndsPassword c.password.toList (c.database.getD "")

theorem free_host {c : Connection} (h : c.Unmarked) : portMarks.Free c.host.toList := by
  rintro _ ⟨port, rfl⟩
  exact h.host port

theorem free_user {c : Connection} (h : c.Unmarked) : passwordMarks.Free c.user.toList := by
  rintro _ rfl
  exact h.user

/-- A password before a database does not hold the mark between them. -/
theorem EndsPassword.free {password : List Char} {database : String}
    (h : EndsPassword password database) (hdatabase : database ≠ "") :
    databaseMarks.Free password := by
  rintro _ rfl ⟨before, after, hsplit⟩
  rw [List.append_assoc] at hsplit
  exact hdatabase (h before after hsplit.symm).2

theorem EndsPassword.ne_clause {password password' : List Char} {database : String}
    (h : EndsPassword password "") (hdatabase : database ≠ "") :
    password ≠ password' ++ databaseClause database := by
  rw [databaseClause_of_ne hdatabase]
  intro hsplit
  obtain ⟨hempty, -⟩ := h password' database.toList hsplit
  exact hdatabase (String.toList_eq_nil_iff.1 hempty)

/-- Without the mark between them in it, a password is told from the database. -/
theorem EndsPassword.unique {password password' : List Char} {database database' : String}
    (h : EndsPassword password database) (h' : EndsPassword password' database')
    (heq : password ++ databaseClause database = password' ++ databaseClause database') :
    password = password' ∧ database = database' := by
  by_cases hnone : database = "" <;> by_cases hnone' : database' = ""
  · subst hnone hnone'
    exact ⟨List.append_cancel_right heq, rfl⟩
  · subst hnone
    rw [databaseClause_empty, List.append_nil] at heq
    exact absurd heq (h.ne_clause hnone')
  · subst hnone'
    rw [databaseClause_empty, List.append_nil] at heq
    exact absurd heq.symm (h'.ne_clause hnone)
  · rw [databaseClause_of_ne hnone, databaseClause_of_ne hnone'] at heq
    obtain ⟨hpassword, hrest⟩ :=
      Text.Marks.cut_unique rfl rfl (h.free hnone) (h'.free hnone') heq
    exact ⟨hpassword, String.toList_inj.1 (List.append_cancel_left hrest)⟩

theorem parameters_eq_of_values_eq {c c' : Connection} (hc : c.Unmarked) (hc' : c'.Unmarked)
    (h : c.values = c'.values) : c.parameters = c'.parameters := by
  obtain ⟨hhost, hport⟩ := Text.Marks.cut_unique (M := portMarks) ⟨c.port, rfl⟩ ⟨c'.port, rfl⟩
    (free_host hc) (free_host hc') h
  obtain ⟨hport, huser⟩ := portMark_append_inj hport
  obtain ⟨huser, hsecrets⟩ := Text.Marks.cut_unique (M := passwordMarks) rfl rfl
    (free_user hc) (free_user hc') huser
  have hsecrets := List.append_cancel_left hsecrets
  obtain ⟨hpassword, hdatabase⟩ := hc.password.unique hc'.password hsecrets
  rw [String.toList_inj] at hhost huser hpassword
  rw [parameters, parameters, hhost, hport, huser, hpassword, hdatabase]

/-- Any text after the user is a password and a database, the password ending first. -/
theorem exists_endsPassword (text : List Char) :
    ∃ password database, EndsPassword password database ∧
      text = password ++ databaseClause database := by
  by_cases hmark : ∃ before after, text = before ++ (databaseMark ++ after) ∧ after ≠ []
  · obtain ⟨before, after, rfl, hafter⟩ := hmark
    obtain ⟨password, _, more, rfl, hfree, hcut⟩ :=
      Text.Marks.exists_first (M := databaseMarks) before rfl after
    have hdatabase : String.ofList (more ++ after) ≠ "" := by
      intro hempty
      have hnil := congrArg String.toList hempty
      rw [String.toList_ofList] at hnil
      exact hafter (List.append_eq_nil_iff.1 hnil).2
    refine ⟨password, String.ofList (more ++ after), ?_, ?_⟩
    · intro before' after' hsplit
      exact absurd ⟨before', after', by rw [hsplit, List.append_assoc]⟩ (hfree databaseMark rfl)
    · rw [databaseClause_of_ne hdatabase, String.toList_ofList]
      exact hcut
  · refine ⟨text, "", ?_, (List.append_nil text).symm⟩
    intro before after hsplit
    refine ⟨?_, rfl⟩
    by_contra hafter
    exact hmark ⟨before, after, hsplit, hafter⟩

/-- Every string is that of a connection whose values end where their marks occur first. -/
theorem exists_unmarked (c : Connection) :
    ∃ c' : Connection, c'.Unmarked ∧ c'.values = c.values := by
  obtain ⟨host, _, more, ⟨port, rfl⟩, hhost, hvalues⟩ :=
    Text.Marks.exists_first (M := portMarks) c.host.toList ⟨c.port, rfl⟩
      (c.user.toList ++ (passwordMark ++ c.secrets))
  obtain ⟨user, _, more', rfl, huser, hrest⟩ :=
    Text.Marks.exists_first (M := passwordMarks) (more ++ c.user.toList) rfl c.secrets
  obtain ⟨password, database, hpassword, hsecrets⟩ := exists_endsPassword (more' ++ c.secrets)
  refine ⟨⟨String.ofList host, port, String.ofList user, String.ofList password, some database⟩,
    ⟨?_, ?_, ?_⟩, ?_⟩
  · intro port'
    rw [String.toList_ofList]
    exact hhost _ ⟨port', rfl⟩
  · rw [String.toList_ofList]
    exact huser _ rfl
  · rw [String.toList_ofList]
    exact hpassword
  · symm
    calc c.values
        = host ++ (portMark port ++ (more ++ (c.user.toList ++ (passwordMark ++ c.secrets)))) :=
          hvalues
      _ = host ++ (portMark port ++ (user ++ (passwordMark ++ (more' ++ c.secrets)))) := by
          rw [← List.append_assoc more, passwordMark, hrest]
      _ = _ := by
          simp only [values, secrets, String.toList_ofList, Option.getD_some, ← hsecrets]

/-- Whether the values end where their marks occur first is a matter of the parameters. -/
theorem Unmarked.of_parameters_eq {c c' : Connection} (hc : c.Unmarked)
    (h : c.parameters = c'.parameters) : c'.Unmarked := by
  simp only [parameters, Prod.mk.injEq] at h
  obtain ⟨hhost, -, huser, hpassword, hdatabase⟩ := h
  exact ⟨hhost ▸ hc.host, huser ▸ hc.user, hpassword ▸ hdatabase ▸ hc.password⟩

/-- Values without blanks hold no marks; the name of the database may be any. -/
theorem Unmarked.of_blank_notMem {c : Connection} (hhost : ' ' ∉ c.host.toList)
    (huser : ' ' ∉ c.user.toList) (hpassword : ' ' ∉ c.password.toList) : c.Unmarked where
  host port hpart := hhost (hpart.subset List.mem_cons_self)
  user hpart := huser (hpart.subset List.mem_cons_self)
  password before after hsplit := by
    rw [hsplit] at hpassword
    simp [databaseMark] at hpassword

/-! ## What a string tells -/

/-- Among connections whose values end where their marks occur first, a string tells the
parameters. A connection with a value that goes on shares its string with one of these that has
other parameters. -/
theorem render_tells_unmarked (c : Connection) :
    (c.Unmarked → ∀ c' : Connection, c'.Unmarked → c'.render = c.render →
      c'.parameters = c.parameters) ∧
    (¬ c.Unmarked →
      ∃ c' : Connection, c'.Unmarked ∧ c'.render = c.render ∧ c'.parameters ≠ c.parameters) := by
  refine ⟨?_, ?_⟩
  · intro hc c' hc' h
    exact parameters_eq_of_values_eq hc' hc (render_eq_iff.1 h)
  · intro hc
    obtain ⟨c', hc', hvalues⟩ := exists_unmarked c
    exact ⟨c', hc', render_eq_iff.2 hvalues, fun hsame => hc (hc'.of_parameters_eq hsame)⟩

/-- A name of a database that holds its own mark, after values without blanks. -/
theorem render_tells_unmarked_database :
    let c : Connection := ⟨"db", 1, "u", "p", some "x dbname=y"⟩
    c.render = "host=db port=1 user=u password=p dbname=x dbname=y sslmode=disable" ∧ c.Unmarked ∧
      ∀ c' : Connection, c'.Unmarked → c'.render = c.render →
        c'.parameters = ("db", 1, "u", "p", "x dbname=y") := by
  intro c
  have hc : c.Unmarked := .of_blank_notMem (by decide) (by decide) (by decide)
  exact ⟨by decide, hc, (render_tells_unmarked c).1 hc⟩

/-- A password that goes on as a database has the string of the two. -/
theorem render_eq_of_marked_password :
    let c : Connection := ⟨"localhost", 5432, "admin", "secret dbname=shop", none⟩
    let c' : Connection := ⟨"localhost", 5432, "admin", "secret", some "shop"⟩
    c.render = c'.render ∧ c.parameters ≠ c'.parameters := by
  decide

end SqlCatalog.Sql.Connection
