import OpenVCenter.Foundations.TextLines
import OpenVCenter.System

set_option relaxedAutoImplicit false
set_option autoImplicit false

/-!
# The install script

`render_agent_install_script` of `services/hosts.py` writes a PowerShell script that an
administrator runs elevated. The name of the host and the version of the agent are free text, and go
into comments; a comment ends with its line.

## Main definitions

* `OpenVCenter.AcceptedName`, `OpenVCenter.AcceptedVersion` — what the requests let through.
* `OpenVCenter.renderAgentInstallScript` — the script.
* `OpenVCenter.executableLines` — the lines of a script that are no comments.
* `OpenVCenter.smuggled` — the lines that a name and a version put behind their comments.

## Main results

* `OpenVCenter.executableLines_script` — the lines of the script.
* `OpenVCenter.executableLines_iff` — the names and versions between which the script is the same.
-/

namespace OpenVCenter

open TextLines

/-! ## Inputs -/

section Inputs

variable (py : PyStd)

/-- The check of `upload_agent_binary`. -/
def uploadedVersion (version : String) : Except Raised String :=
  let version := py.strip version
  if version.isEmpty then
    .error (.apiError { code := "INVALID", message := "version is required" })
  else .ok version

/-- A name that `create_host` and `update_host` let through. -/
structure AcceptedName where
  text : String
  accepted : ∃ name, py.strip name = text

/-- A version that `upload_agent_binary` lets through. -/
structure AcceptedVersion where
  text : String
  accepted : ∃ version, uploadedVersion py version = .ok text

end Inputs

/-- `hasher.hexdigest()`. -/
structure HexDigest where
  text : String
  hex : text.toList.all (fun c => decide (c ∈ "0123456789abcdef".toList)) = true

/-! ## The script -/

/-- A boundary of `str.splitlines`. -/
def isLineBoundary (c : Char) : Bool :=
  decide (c ∈ ['\n', '\r', '\x0b', '\x0c', '\x1c', '\x1d', '\x1e', '\u0085', '\u2028', '\u2029'])

/-- `str.splitlines`. -/
def splitlines : List Char → List (List Char)
  | [] => []
  | c :: cs =>
    if c = '\r' ∧ cs.head? = some '\n' then splitlines cs
    else if isLineBoundary c then [] :: splitlines cs
    else
      match splitlines cs with
      | [] => [[c]]
      | l :: ls => (c :: l) :: ls

/-- `_ps_here_string`. -/
def psHereString (body : String) : String :=
  let safe := (splitlines body.toList).map fun l =>
    if "'@".toList.isPrefixOf l then " " ++ String.ofList l else String.ofList l
  "@'\n" ++ "\n".intercalate safe ++ "\n'@"

/-- Lines, each with its end. -/
def textOf (lines : List String) : String := String.join (lines.map fun l => l ++ "\n")

/-- `render_agent_config`. `amqpUrl` is `agent_amqp_url(host)`, which is of the settings and of the
credentials of the host. -/
def renderAgentConfig (host : Host) (amqpUrl : String) : String :=
  textOf [
    "[agent]",
    "host_id = " ++ host.shortId,
    "rabbitmq_url = " ++ amqpUrl,
    "",
    "log_level = info",
    "task_timeout = 60",
    "refresh_interval_vms = 180",
    "refresh_interval_host = 600",
    "metrics_interval = 300",
    "max_concurrent_jobs = 4",
    "",
    "; Required - point these at real directories on this host:",
    "template_path = D:\\HyperV\\TEMPLATES",
    "local_iso_path = D:\\HyperV\\ISOS",
    "",
    "; Optional - extra VM storage roots, semicolon-separated:",
    "; aditional_vm_storage = E:\\HyperV"]

/-- `_INSTALL_DIR`. -/
def installDir : String := "C:\\Program Files\\ovc-agent"

/-- The script in front of its comments. -/
def scriptHead : String :=
  "#Requires -RunAsAdministrator\n$ErrorActionPreference = 'Stop'\n" ++
    "$ProgressPreference = 'SilentlyContinue'"

/-- The script behind its comments. -/
def scriptBody (py : PyStd) (downloadUrl : String) (checksumSha256 : HexDigest)
    (configIni : String) : String :=
  textOf [
    "",
    "$InstallDir  = '" ++ installDir ++ "'",
    "$ExePath     = Join-Path $InstallDir 'ovc-agent.exe'",
    "$ConfigPath  = Join-Path $InstallDir 'config.ini'",
    "$ServiceName = 'ovc-agent'",
    "$DownloadUrl = '" ++ downloadUrl ++ "'",
    "$Checksum    = '" ++ py.upper checksumSha256.text ++ "'",
    "",
    "Write-Host \"Installing ovc-agent into $InstallDir ...\"",
    "New-Item -ItemType Directory -Force -Path $InstallDir | Out-Null",
    "",
    "$svc = Get-Service -Name $ServiceName -ErrorAction SilentlyContinue",
    "if ($svc -and $svc.Status -ne 'Stopped') \x7b",
    "    Write-Host 'Stopping the running ovc-agent service so the binary can be replaced...'",
    "    Stop-Service -Name $ServiceName -Force",
    "\x7d",
    "",
    "Write-Host 'Downloading the agent binary...'",
    "[Net.ServicePointManager]::SecurityProtocol = [Net.SecurityProtocolType]::Tls12",
    "$tmp = \"$ExePath.download\"",
    "Invoke-WebRequest -Uri $DownloadUrl -OutFile $tmp -UseBasicParsing",
    "$hash = (Get-FileHash $tmp -Algorithm SHA256).Hash",
    "if ($hash -ne $Checksum) \x7b",
    "    Remove-Item $tmp -Force",
    "    throw \"checksum mismatch: got $hash, expected $Checksum\"",
    "\x7d",
    "Move-Item $tmp $ExePath -Force",
    "Write-Host \"Agent binary written to $ExePath\"",
    "",
    "$ConfigBody = " ++ psHereString configIni,
    "if (Test-Path $ConfigPath) \x7b",
    "    Write-Host \"config.ini already exists at $ConfigPath - keeping it (not overwritten).\"",
    "\x7d else \x7b",
    "    Set-Content -Path $ConfigPath -Value $ConfigBody -Encoding UTF8",
    "    Write-Host \"Wrote $ConfigPath\"",
    "\x7d",
    "",
    "if (-not (Get-Service -Name $ServiceName -ErrorAction SilentlyContinue)) \x7b",
    "    Write-Host 'Installing the ovc-agent Windows service...'",
    "    & $ExePath install",
    "    if ($LASTEXITCODE -ne 0) \x7b throw \"ovc-agent.exe install failed (exit" ++
      " $LASTEXITCODE)\" \x7d",
    "\x7d else \x7b",
    "    Write-Host 'ovc-agent Windows service already installed.'",
    "\x7d",
    "",
    "try \x7b Start-Process notepad.exe $ConfigPath \x7d catch \x7b",
    "    Write-Host \"Could not open Notepad - edit $ConfigPath by hand.\"",
    "\x7d",
    "",
    "Write-Host ''",
    "Write-Host '============================================================'",
    "Write-Host ' ovc-agent is installed but NOT started yet.'",
    "Write-Host ''",
    "Write-Host \" 1. Edit  $ConfigPath  (opened in Notepad) and set:\"",
    "Write-Host '      template_path   = existing folder for exported VM templates'",
    "Write-Host '      local_iso_path  = existing folder that holds your ISO files'",
    "Write-Host '    then save the file.'",
    "Write-Host ''",
    "Write-Host ' 2. Start the service:'",
    "Write-Host \"      Start-Service $ServiceName\"",
    "Write-Host ''",
    "Write-Host '    Confirm it is running:'",
    "Write-Host \"      Get-Service $ServiceName\"",
    "Write-Host ''",
    "Write-Host '    Follow the agent log:'",
    "Write-Host \"      Get-Content '$InstallDir\\agent.log' -Wait -Tail 20\"",
    "Write-Host '============================================================'"]

/-- `render_agent_install_script`. -/
def renderAgentInstallScript (py : PyStd) (host : Host) (downloadUrl : String)
    (checksumSha256 : HexDigest) (version configIni : String) : String :=
  scriptHead ++ "\n" ++
    ("# ovc-agent installer for host '" ++ host.name ++ "' (" ++ host.shortId ++ ")") ++ "\n" ++
    ("# agent " ++ version ++ "  SHA-256 " ++ checksumSha256.text) ++ "\n" ++
    scriptBody py downloadUrl checksumSha256 configIni

/-- The script of `build_agent_install_script`, for a host of this name and a binary of this
version. -/
def installScript (py : PyStd) (host : Host) (name : AcceptedName py) (downloadUrl : String)
    (checksumSha256 : HexDigest) (version : AcceptedVersion py) (amqpUrl : String) : String :=
  let host := { host with name := name.text }
  renderAgentInstallScript py host downloadUrl checksumSha256 version.text
    (renderAgentConfig host amqpUrl)

/-! ## Its lines -/

/-- A comment line: the first character that is not blank is a `#`. -/
def isComment (line : List Char) : Bool :=
  decide ((line.dropWhile Char.isWhitespace).head? = some '#')

/-- The lines that are no comments. -/
def withoutComments (ls : List (List Char)) : List (List Char) := ls.filter fun l => !isComment l

/-- The lines of a script that are no comments. -/
def executableLines (script : String) : List (List Char) := withoutComments (lines script.toList)

/-- The lines behind the first of a text that goes on with `rest`, without the comments. -/
def behind (text rest : String) : List (List Char) :=
  withoutComments (lines (text ++ rest).toList).tail

/-- What is behind the name, and behind the version, on their lines. -/
def smuggled (host : Host) (name version : String) (checksumSha256 : HexDigest) :
    List (List Char) :=
  behind name ("' (" ++ host.shortId ++ ")") ++ behind version ("  SHA-256 " ++ checksumSha256.text)

section Lines

variable {py : PyStd} {host : Host} {downloadUrl : String} {checksumSha256 : HexDigest}
  {version configIni : String}

/-- Comments are taken line by line. -/
lemma withoutComments_append (ls ls' : List (List Char)) :
    withoutComments (ls ++ ls') = withoutComments ls ++ withoutComments ls' :=
  List.filter_append _ _

/-- A comment hides the rest of its line, and no more. -/
lemma withoutComments_comment (text : List Char) :
    withoutComments (lines ('#' :: text)) = withoutComments (lines text).tail := by
  rw [lines_cons_plain (by decide) (by decide)]
  obtain ⟨l, ls, hl⟩ := List.exists_cons_of_ne_nil (lines_ne_nil text)
  rw [hl]
  rfl

/-- A digest is plain. -/
lemma HexDigest.isPlain_text (d : HexDigest) : isPlain d.text.toList = true := by
  refine List.all_eq_true.mpr fun c hc => ?_
  have hhex := of_decide_eq_true (List.all_eq_true.mp d.hex c hc)
  have hdigits : isPlain "0123456789abcdef".toList = true := by decide
  exact List.all_eq_true.mp hdigits c hhex

/-- A comment with free text in it, and the rest of its line. -/
lemma withoutComments_field {pre text rest : String} (hpre : isPlain pre.toList = true) :
    withoutComments (lines ("#" ++ pre ++ text ++ rest).toList) = behind text rest := by
  have hlist : ("#" ++ pre ++ text ++ rest).toList =
      '#' :: (pre.toList ++ (text ++ rest).toList) := by
    simp only [String.toList_append, List.append_assoc]
    rfl
  rw [hlist, withoutComments_comment, tail_lines_plain_append hpre]
  rfl

/-- **The lines of the script** that are no comments: those that are written there, and between
them what is behind the name and behind the version.

**Proof sketch.** The script is its head, the line with the name, the line with the version and the
body. Each of the first three ends with no carriage return, so the lines of the whole are those of
the parts, and the comment filter is applied to each. -/
theorem executableLines_script :
    executableLines
        (renderAgentInstallScript py host downloadUrl checksumSha256 version configIni) =
      withoutComments (lines scriptHead.toList) ++
        smuggled host host.name version checksumSha256 ++
        executableLines (scriptBody py downloadUrl checksumSha256 configIni) := by
  have hname : ("# ovc-agent installer for host '" ++ host.name ++ "' (" ++ host.shortId ++ ")") =
      "#" ++ " ovc-agent installer for host '" ++ host.name ++
        ("' (" ++ host.shortId ++ ")") := by
    simp only [← String.toList_inj, String.toList_append, List.append_assoc]
    rfl
  have hversion : ("# agent " ++ version ++ "  SHA-256 " ++ checksumSha256.text) =
      "#" ++ " agent " ++ version ++ ("  SHA-256 " ++ checksumSha256.text) := by
    simp only [← String.toList_inj, String.toList_append, List.append_assoc]
    rfl
  have hscript : (renderAgentInstallScript py host downloadUrl checksumSha256 version
      configIni).toList = scriptHead.toList ++ '\n' ::
        (("# ovc-agent installer for host '" ++ host.name ++ "' (" ++ host.shortId ++ ")").toList ++
          '\n' :: (("# agent " ++ version ++ "  SHA-256 " ++ checksumSha256.text).toList ++
            '\n' :: (scriptBody py downloadUrl checksumSha256 configIni).toList)) := by
    unfold renderAgentInstallScript
    simp only [String.toList_append, List.append_assoc]
    rfl
  have hhead : scriptHead.toList.getLast? ≠ some '\r' := by decide +kernel
  have hname' : ("# ovc-agent installer for host '" ++ host.name ++ "' (" ++ host.shortId ++
      ")").toList.getLast? ≠ some '\r' := by
    rw [String.toList_append]
    exact getLast?_append_plain (by decide) (by decide)
  have hversion' : ("# agent " ++ version ++ "  SHA-256 " ++
      checksumSha256.text).toList.getLast? ≠ some '\r' := by
    rw [String.toList_append, String.toList_append, List.append_assoc]
    refine getLast?_append_plain ?_ ?_
    · unfold isPlain
      rw [List.all_append, Bool.and_eq_true]
      exact ⟨by decide, checksumSha256.isPlain_text⟩
    · simp
  unfold executableLines
  rw [hscript, lines_append_newline hhead, lines_append_newline hname',
    lines_append_newline hversion', withoutComments_append, withoutComments_append,
    withoutComments_append, hname, hversion, withoutComments_field (by decide),
    withoutComments_field (by decide)]
  unfold smuggled
  simp only [List.append_assoc]

/-- A text on one line has nothing behind it. -/
lemma behind_of_isPlain {text rest : String} (htext : isPlain text.toList = true)
    (hrest : isPlain rest.toList = true) : behind text rest = [] := by
  unfold behind
  rw [String.toList_append, tail_lines_plain_append htext, lines_of_isPlain hrest]
  rfl

end Lines

section Runs

variable (py : PyStd) (host : Host) (name₁ name₂ : AcceptedName py) (downloadUrl : String)
  (checksumSha256 : HexDigest) (version₁ version₂ : AcceptedVersion py) (amqpUrl : String)

/-- **Two scripts that differ in the name of the host and in the version** have the same lines
without their comments, exactly when the same is behind the names and the versions. -/
theorem executableLines_iff :
    executableLines (installScript py host name₁ downloadUrl checksumSha256 version₁ amqpUrl) =
        executableLines
          (installScript py host name₂ downloadUrl checksumSha256 version₂ amqpUrl) ↔
      smuggled host name₁.text version₁.text checksumSha256 =
        smuggled host name₂.text version₂.text checksumSha256 := by
  have hconfig : ∀ name, renderAgentConfig { host with name := name } amqpUrl =
      renderAgentConfig host amqpUrl := fun _ => rfl
  have hsmuggled : ∀ name version, smuggled { host with name := name } name version
      checksumSha256 = smuggled host name version checksumSha256 := fun _ _ => rfl
  unfold installScript
  dsimp only
  rw [executableLines_script, executableLines_script, hconfig name₁.text, hconfig name₂.text,
    hsmuggled, hsmuggled, List.append_left_inj, List.append_right_inj]

end Runs

namespace Demo

/-- A name on one line. -/
def plainName : AcceptedName py := ⟨"a", "a", by decide +kernel⟩

/-- A name with a command on its second line. -/
def commandName : AcceptedName py :=
  ⟨"a\nRemove-Item C:\\ -Recurse #", "a\nRemove-Item C:\\ -Recurse #", by decide +kernel⟩

/-- A version. -/
def plainVersion : AcceptedVersion py where
  text := "1.0"
  accepted := by
    have hstrip : py.strip "1.0" = "1.0" := by decide +kernel
    refine ⟨"1.0", ?_⟩
    unfold uploadedVersion
    rw [hstrip]
    rfl

end Demo

/-- The second line of the name is one of the script. -/
theorem executableLines_counterexample :
    ¬ ∀ (py : PyStd) (host : Host) (name₁ name₂ : AcceptedName py) (downloadUrl : String)
      (checksumSha256 : HexDigest) (version₁ version₂ : AcceptedVersion py) (amqpUrl : String),
      executableLines (installScript py host name₁ downloadUrl checksumSha256 version₁ amqpUrl) =
        executableLines
          (installScript py host name₂ downloadUrl checksumSha256 version₂ amqpUrl) := by
  intro h
  have hsame := h Demo.py Demo.host Demo.plainName Demo.commandName "" ⟨"", by decide⟩
    Demo.plainVersion Demo.plainVersion ""
  unfold installScript at hsame
  dsimp only at hsame
  rw [executableLines_script, executableLines_script] at hsame
  have hsmuggled := List.append_cancel_left (List.append_cancel_right hsame)
  exact absurd hsmuggled (by decide +kernel)

end OpenVCenter
