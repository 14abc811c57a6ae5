import OverclockBuilder.BashText
import OverclockBuilder.ShellFlow

namespace OverclockBuilder

open RadixText BashText ShellFlow

/-!
# The three menus of the builder script

A line-by-line transcription of `MENU FREQUENCY`, `MENU VOLTAGE` and
`MENU SUMMARY` of `X6840-Auto-OC-Builder-v2.sh`.  The variables keep the names
of the script.  A variable that is only ever assigned from `$(( ))` holds the
number instead of its decimal text, and `none` is its initial empty text.

`clear` and `echo` are taken to succeed.  A final line without a newline makes
`read` fail, so it counts as end of input.
-/

/-- The stock values the script reads before the first menu. -/
structure Stock where
  littleHz : Intmax
  bigHz : Intmax
  littleVoltageStock : Text
  bigVoltageStock : Text
  deriving Repr, DecidableEq

namespace Stock

/-- `LITTLE_STOCK_MHZ=$((LITTLE_HZ / 1000000))` -/
def littleStockMhz (stock : Stock) : Intmax :=
  stock.littleHz / 1000000

/-- `BIG_STOCK_MHZ=$((BIG_HZ / 1000000))` -/
def bigStockMhz (stock : Stock) : Intmax :=
  stock.bigHz / 1000000

end Stock

/-- The stock values on the screens of the README. -/
def readmeStock : Stock where
  littleHz := 1800000000
  bigHz := 2000000000
  littleVoltageStock := "1006250".toList
  bigVoltageStock := "1087500".toList

/-- The variables the menus assign. -/
structure Vars where
  mhz : Text
  addHz : Option Intmax
  littleTargetMhz : Option Intmax
  bigTargetMhz : Option Intmax
  littleVoltage : Text
  bigVoltage : Text
  choice : Text
  fchoice : Text
  vchoice : Text
  newMhz : Text
  littleInput : Text
  bigInput : Text
  deriving Repr, DecidableEq

/-- The default values in front of the first menu. -/
def Vars.initial (stock : Stock) : Vars where
  mhz := []
  addHz := none
  littleTargetMhz := none
  bigTargetMhz := none
  littleVoltage := stock.littleVoltageStock
  bigVoltage := stock.bigVoltageStock
  choice := []
  fchoice := []
  vchoice := []
  newMhz := []
  littleInput := []
  bigInput := []

/-- One constructor for every `read` of the menus, in source order. -/
inductive Prompt where
  | additionalMhz
  | retryFrequency
  | frequencyChoice
  | voltageChoice
  | littleVoltage
  | retryLittle
  | bigVoltage
  | retryBig
  | voltageFrequencyChoice
  | voltageNewMhz
  | summaryChoice
  | summaryVoltageChoice
  | summaryLittle
  | summaryBig
  | retryVoltage
  | summaryFrequencyChoice
  | summaryNewMhz
  deriving Repr, DecidableEq

/-- What the menus print between two answers. -/
inductive Output where
  /-- `CPU FREQUENCY`, the first screen -/
  | frequencyScreen
  /-- `Target:` with `[K] Kembali` and `[Y] Lanjut` -/
  | targetScreen
  /-- `VOLTAGE` with `[Y] Ya`, `[N] Tidak`, `[K] Kembali ke CPU Frequency` -/
  | voltageScreen
  /-- `PENGATURAN VOLTAGE` with `[K] Kembali ke pilihan voltage` -/
  | voltageEntryScreen
  /-- `CPU FREQUENCY` below the voltage menu -/
  | voltageFrequencyScreen
  /-- `KONFIGURASI AKHIR` with `[K] Kembali ke Voltage` and `[Y] Build` -/
  | summaryScreen
  /-- `VOLTAGE` below the summary -/
  | summaryVoltageScreen
  /-- `CPU FREQUENCY` below the summary -/
  | summaryFrequencyScreen
  /-- `[ERROR] Masukkan angka 1-500 MHz.` -/
  | invalidMhz
  /-- `[ERROR] Pilih Y atau K.` -/
  | chooseYK
  /-- `[ERROR] Pilih Y, N, atau K.` -/
  | chooseYNK
  /-- `[ERROR] Voltage Little tidak valid.` -/
  | invalidLittle
  /-- `[ERROR] Voltage Big tidak valid.` -/
  | invalidBig
  /-- `[ERROR] Voltage tidak valid.` -/
  | invalidVoltage
  /-- `Konfigurasi dibatalkan.` -/
  | cancelled
  deriving Repr, DecidableEq

/-- The terminal session: what was printed with which values, and answered. -/
inductive Event where
  | printed : Output → Vars → Event
  | answered : Prompt → Text → Event
  deriving Repr, DecidableEq

/-- The world of the menu phase. -/
abbrev MenuWorld := World Vars Text Event

/-- A command of the menu phase. -/
abbrev MenuCommand := Command Vars Text Event

/-! ## Conditions -/

/-- The rejecting check of the first frequency prompt. -/
def rejectsMhz (text : Text) : Bool :=
  !isDecimal text || testEq text 0 || testGt text 500

/-- The accepting check of both frequency re-entry prompts. -/
def acceptsMhz (text : Text) : Bool :=
  isDecimal text && testGt text 0 && testLe text 500

/-- The rejecting check of the voltage menu, made once for each cluster. -/
def rejectsVoltage (text : Text) : Bool :=
  !isDecimal text || testEq text 0

/-- The accepting check of the summary's voltage dialogue. -/
def acceptsVoltages (little big : Text) : Bool :=
  isDecimal little && testGt little 0 &&
    isDecimal big && testGt big 0

/-- `[[ answer == "k" || answer == "K" ]]` -/
def isBack (answer : Text) : Bool :=
  answer = ['k'] || answer = ['K']

/-! ## Assignments -/

/-- `LITTLE_TARGET_MHZ=$((LITTLE_STOCK_MHZ + MHZ))` -/
def setLittleTargetMhz (stock : Stock) (vars : Vars) : Option Vars :=
  (strlong vars.mhz).map fun mhz =>
    { vars with littleTargetMhz := some (stock.littleStockMhz + mhz) }

/-- `BIG_TARGET_MHZ=$((BIG_STOCK_MHZ + MHZ))` -/
def setBigTargetMhz (stock : Stock) (vars : Vars) : Option Vars :=
  (strlong vars.mhz).map fun mhz =>
    { vars with bigTargetMhz := some (stock.bigStockMhz + mhz) }

/-- `ADD_HZ=$((MHZ * 1000000))` -/
def setAddHz (vars : Vars) : Option Vars :=
  (strlong vars.mhz).map fun mhz =>
    { vars with addHz := some (mhz * 1000000) }

/-- Both voltages back to their stock texts. -/
def setStockVoltage (stock : Stock) (vars : Vars) : Vars :=
  { vars with
    littleVoltage := stock.littleVoltageStock
    bigVoltage := stock.bigVoltageStock }

/-- Both voltages from the entry dialogue. -/
def setInputVoltage (vars : Vars) : Vars :=
  { vars with
    littleVoltage := vars.littleInput
    bigVoltage := vars.bigInput }

/-! ## Commands -/

/-- Print a screen or a message. -/
def print (output : Output) : MenuCommand :=
  emit (Event.printed output)

/-- `read -rp` into a variable -/
def ask
    (prompt : Prompt)
    (store : Vars → Text → Vars) :
    MenuCommand :=
  readLine (Event.answered prompt)
    fun vars line => store vars (readStrip line)

/-- `read -rp "Tekan Enter untuk mencoba lagi..."` -/
def pressEnter (prompt : Prompt) : MenuCommand :=
  ask prompt fun vars _ => vars

/-- `read -rp ... CHOICE` and `CHOICE="${CHOICE,,}"` -/
def askChoice (prompt : Prompt) : MenuCommand :=
  block [
    ask prompt fun vars answer => { vars with choice := answer },
    assign fun vars => { vars with choice := lowercase vars.choice }]

/-- `read -rp ... FCHOICE` and `FCHOICE="${FCHOICE,,}"` -/
def askFchoice (prompt : Prompt) : MenuCommand :=
  block [
    ask prompt fun vars answer => { vars with fchoice := answer },
    assign fun vars => { vars with fchoice := lowercase vars.fchoice }]

/-- `read -rp ... VCHOICE` and `VCHOICE="${VCHOICE,,}"` -/
def askVchoice (prompt : Prompt) : MenuCommand :=
  block [
    ask prompt fun vars answer => { vars with vchoice := answer },
    assign fun vars => { vars with vchoice := lowercase vars.vchoice }]

/-! ## MENU FREQUENCY -/

/-- The inner `Pilihan [K/Y]` loop of the frequency menu. -/
def frequencyChoiceLoop : MenuCommand :=
  whileTrue <| block [
    askChoice .frequencyChoice,
    caseOf Vars.choice
      [(['y'],
        block [
          expand setAddHz,
          breakLoop]),
      (['k'],
        block [
          print .cancelled,
          exitWith 0])]
      (print .chooseYK)]

/-- `MENU FREQUENCY` -/
def frequencyMenu (stock : Stock) : MenuCommand :=
  whileTrue <| block [
    print .frequencyScreen,
    ask .additionalMhz fun vars answer => { vars with mhz := answer },
    branch (fun vars => rejectsMhz vars.mhz)
      (block [
        print .invalidMhz,
        pressEnter .retryFrequency,
        continueLoop])
      skip,
    expand (setLittleTargetMhz stock),
    expand (setBigTargetMhz stock),
    print .targetScreen,
    frequencyChoiceLoop,
    breakLoop]

/-! ## The frequency screens below the other menus -/

/--
`CPU FREQUENCY` below the voltage menu and below the summary.

The script writes this loop twice, with the same commands in both places.
-/
def frequencyAgainLoop
    (stock : Stock)
    (screen : Output)
    (choicePrompt valuePrompt : Prompt) :
    MenuCommand :=
  whileTrue <| block [
    print screen,
    askFchoice choicePrompt,
    caseOf Vars.fchoice
      [(['y'],
        breakLoop),
      (['k'],
        block [
          ask valuePrompt fun vars answer =>
            { vars with newMhz := answer },
          branch (fun vars => acceptsMhz vars.newMhz)
            (block [
              assign fun vars => { vars with mhz := vars.newMhz },
              expand setAddHz,
              expand (setLittleTargetMhz stock),
              expand (setBigTargetMhz stock),
              breakLoop])
            skip,
          print .invalidMhz])]
      (print .chooseYK)]

/-! ## MENU VOLTAGE -/

/-- `PENGATURAN VOLTAGE` -/
def voltageEntryLoop : MenuCommand :=
  whileTrue <| block [
    print .voltageEntryScreen,
    ask .littleVoltage fun vars answer =>
      { vars with littleInput := answer },
    branch (fun vars => isBack vars.littleInput)
      breakLoop
      skip,
    branch (fun vars => rejectsVoltage vars.littleInput)
      (block [
        print .invalidLittle,
        pressEnter .retryLittle,
        continueLoop])
      skip,
    ask .bigVoltage fun vars answer =>
      { vars with bigInput := answer },
    branch (fun vars => isBack vars.bigInput)
      continueLoop
      skip,
    branch (fun vars => rejectsVoltage vars.bigInput)
      (block [
        print .invalidBig,
        pressEnter .retryBig,
        continueLoop])
      skip,
    assign setInputVoltage,
    breakLoop]

/-- `MENU VOLTAGE` -/
def voltageMenu (stock : Stock) : MenuCommand :=
  whileTrue <| block [
    print .voltageScreen,
    askChoice .voltageChoice,
    caseOf Vars.choice
      [(['y'],
        voltageEntryLoop),
      (['n'],
        block [
          assign (setStockVoltage stock),
          breakLoop]),
      (['k'],
        frequencyAgainLoop stock .voltageFrequencyScreen
          .voltageFrequencyChoice .voltageNewMhz)]
      (print .chooseYNK),
    branch (fun vars => vars.choice = ['y'] || vars.choice = ['n'])
      breakLoop
      skip]

/-! ## MENU SUMMARY -/

/-- `VOLTAGE` below the summary -/
def summaryVoltageLoop (stock : Stock) : MenuCommand :=
  whileTrue <| block [
    print .summaryVoltageScreen,
    askVchoice .summaryVoltageChoice,
    caseOf Vars.vchoice
      [(['y'],
        block [
          ask .summaryLittle fun vars answer =>
            { vars with littleInput := answer },
          ask .summaryBig fun vars answer =>
            { vars with bigInput := answer },
          branch
            (fun vars =>
              acceptsVoltages vars.littleInput vars.bigInput)
            (block [
              assign setInputVoltage,
              breakLoop])
            skip,
          print .invalidVoltage,
          pressEnter .retryVoltage]),
      (['n'],
        block [
          assign (setStockVoltage stock),
          breakLoop]),
      (['k'],
        block [
          frequencyAgainLoop stock .summaryFrequencyScreen
            .summaryFrequencyChoice .summaryNewMhz,
          breakLoop])]
      (print .chooseYNK)]

/-- `MENU SUMMARY` -/
def summaryMenu (stock : Stock) : MenuCommand :=
  whileTrue <| block [
    print .summaryScreen,
    askChoice .summaryChoice,
    caseOf Vars.choice
      [(['y'],
        breakLoop),
      (['k'],
        summaryVoltageLoop stock)]
      (print .chooseYK),
    branch (fun vars => vars.choice = ['y'])
      breakLoop
      skip]

/-- The three menus, each one top-level command of the script. -/
def menus (stock : Stock) : MenuCommand :=
  topLevel [frequencyMenu stock, voltageMenu stock, summaryMenu stock]

/-- The world in front of the first menu. -/
def startWorld (stock : Stock) (lines : List Text) : MenuWorld where
  vars := Vars.initial stock
  input := lines
  log := []

/-- The whole menu phase on a finite input. -/
def runMenus (stock : Stock) (lines : List Text) : Flow × MenuWorld :=
  menus stock (startWorld stock lines)

end OverclockBuilder
