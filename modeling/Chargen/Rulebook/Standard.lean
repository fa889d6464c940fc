import Chargen.Rulebook

/-!
# The standard rulebook

The rulebook that is used where no other one is given.
-/

namespace Chargen.Rulebook

/-- A skill that may receive points of both kinds. -/
def openSkill (name : String) (base : Int) : Skill := ⟨name, base, false⟩

/-- A skill that receives no personal points at creation. -/
def closedSkill (name : String) : Skill := ⟨name, 0, true⟩

/-- The dice of each characteristic. -/
def standardCharacteristics : List (String × String) :=
  [("FUE", "3D6x5"), ("CON", "3D6x5"), ("TAM", "(2D6+6)x5"), ("DES", "3D6x5"), ("APA", "3D6x5"),
   ("INT", "(2D6+6)x5"), ("POD", "3D6x5"), ("EDU", "(2D6+6)x5"), ("SUERTE", "3D6x5")]

/-- The skill families. -/
def standardFamilies : List SkillFamily :=
  [⟨"Arte/Artesanía", 5⟩, ⟨"Ciencia", 1⟩, ⟨"Otras lenguas", 1⟩, ⟨"Pilotar", 1⟩,
   ⟨"Supervivencia", 10⟩]

/-- The skills of the catalog. -/
def standardSkills : List Skill :=
  [openSkill "Antropología" 1, openSkill "Armas de fuego (Arco)" 15,
   openSkill "Armas de fuego (Arma corta)" 20, openSkill "Armas de fuego (Fusil/Escopeta)" 25,
   openSkill "Armas de fuego (Subfusil)" 15, openSkill "Arqueología" 1,
   openSkill "Arte/Artesanía (Actuar)" 5, openSkill "Arte/Artesanía (Bellas artes)" 5,
   openSkill "Arte/Artesanía (Dibujo técnico)" 5, openSkill "Arte/Artesanía (Fotografía)" 5,
   openSkill "Arte/Artesanía (Literatura)" 5, openSkill "Buscar libros" 20,
   openSkill "Cerrajería" 1, openSkill "Charlatanería" 5, openSkill "Ciencia (Astronomía)" 1,
   openSkill "Ciencia (Biología)" 1, openSkill "Ciencia (Farmacia)" 1,
   openSkill "Ciencia (Física)" 1, openSkill "Ciencia (Ingeniería)" 1,
   openSkill "Ciencia (Química)" 1, openSkill "Ciencias ocultas" 5,
   openSkill "Combatir (Espada)" 20, openSkill "Combatir (Hacha)" 15,
   openSkill "Combatir (Lanza)" 20, openSkill "Combatir (Látigo)" 5,
   openSkill "Combatir (Pelea)" 25, openSkill "Conducir automóvil" 20,
   openSkill "Conducir maquinaria" 1, openSkill "Contabilidad" 5, closedSkill "Crédito",
   openSkill "Derecho" 5, openSkill "Descubrir" 25, openSkill "Disfrazarse" 5,
   openSkill "Electricidad" 10, openSkill "Encanto" 15, openSkill "Equitación" 5,
   openSkill "Escuchar" 20, openSkill "Esquivar" 0, openSkill "Historia" 5,
   openSkill "Intimidar" 15, openSkill "Juego de manos" 10, openSkill "Lanzar" 20,
   openSkill "Lengua propia" 0, openSkill "Mecánica" 10, openSkill "Medicina" 1,
   closedSkill "Mitos de Cthulhu", openSkill "Nadar" 20, openSkill "Naturaleza" 10,
   openSkill "Orientarse" 10, openSkill "Otras lenguas (Alemán)" 1,
   openSkill "Otras lenguas (Francés)" 1, openSkill "Otras lenguas (Latín)" 1,
   openSkill "Persuasión" 10, openSkill "Pilotar (Aeronave)" 1, openSkill "Pilotar (Barco)" 1,
   openSkill "Primeros auxilios" 30, openSkill "Psicoanálisis" 1, openSkill "Psicología" 10,
   openSkill "Saltar" 20, openSkill "Seguir rastros" 10, openSkill "Sigilo" 20,
   openSkill "Supervivencia (Ártico)" 10, openSkill "Supervivencia (Desierto)" 10,
   openSkill "Supervivencia (Mar)" 10, openSkill "Tasación" 5, openSkill "Trepar" 20]

/-- One pick of a social skill. -/
def socialPick : PickGroup :=
  ⟨"Habilidad social", 1, ["Charlatanería", "Encanto", "Intimidar", "Persuasión"]⟩

/-- One pick of any skill. -/
def anyPick : PickGroup := ⟨"Especialidad personal", 1, ["Cualquier habilidad"]⟩

/-- A number of picks of any skill. -/
def anyPicks (count : Nat) : PickGroup :=
  ⟨"Especialidades personales", count, ["Cualquier habilidad"]⟩

/-- The occupations. -/
def standardOccupations : List Occupation :=
  [ { name := "Anticuario"
      credit := ⟨30, 70⟩
      pointsFormula := "EDU x 4"
      grants :=
        ["Tasación", "Arte/Artesanía", "Historia", "Buscar libros", "Otras lenguas", "Descubrir"]
      pickGroups := [socialPick, anyPick] },
    { name := "Artista"
      credit := ⟨9, 50⟩
      pointsFormula := "EDU x 2 + (POD x 2 o DES x 2)"
      grants :=
        ["Arte/Artesanía", "Historia o Naturaleza", "Psicología", "Descubrir", "Otras lenguas"]
      pickGroups := [socialPick, anyPicks 2] },
    { name := "Atleta"
      credit := ⟨9, 70⟩
      pointsFormula := "EDU x 2 + (DES x 2 o FUE x 2)"
      grants :=
        ["Trepar", "Saltar", "Combatir (Pelea)", "Equitación", "Nadar", "Lanzar"]
      pickGroups := [socialPick, anyPick] },
    { name := "Diletante"
      credit := ⟨50, 99⟩
      pointsFormula := "EDU x 2 + APA x 2"
      grants :=
        ["Arte/Artesanía", "Armas de fuego", "Otras lenguas", "Equitación"]
      pickGroups := [socialPick, anyPicks 3] },
    { name := "Ingeniero"
      credit := ⟨30, 60⟩
      pointsFormula := "EDU x 4"
      grants :=
        ["Arte/Artesanía (Dibujo técnico)", "Electricidad", "Buscar libros", "Mecánica",
         "Conducir maquinaria", "Ciencia (Ingeniería)", "Ciencia (Física)"]
      pickGroups := [anyPick] },
    { name := "Investigador privado"
      credit := ⟨10, 30⟩
      pointsFormula := "EDU x 2 + (DES x 2 o FUE x 2)"
      grants :=
        ["Arte/Artesanía (Fotografía)", "Disfrazarse", "Derecho", "Buscar libros", "Psicología",
         "Descubrir"]
      pickGroups := [socialPick, ⟨"Habilidad de campo", 1,
           ["Cerrajería", "Combatir", "Armas de fuego"]⟩] },
    { name := "Médico"
      credit := ⟨30, 80⟩
      pointsFormula := "EDU x 4"
      grants :=
        ["Primeros auxilios", "Otras lenguas (Latín)", "Medicina", "Psicología",
         "Ciencia (Biología)", "Ciencia (Farmacia)"]
      pickGroups := [⟨"Especialidades académicas", 2,
           ["Cualquier especialidad"]⟩] },
    { name := "Periodista"
      credit := ⟨9, 30⟩
      pointsFormula := "EDU x 4"
      grants :=
        ["Arte/Artesanía (Fotografía)", "Historia", "Buscar libros", "Lengua propia",
         "Psicología"]
      pickGroups := [socialPick, anyPicks 2] },
    { name := "Piloto"
      credit := ⟨20, 70⟩
      pointsFormula := "EDU x 2 + DES x 2"
      grants :=
        ["Electricidad", "Mecánica", "Orientarse", "Conducir maquinaria", "Pilotar (Aeronave)",
         "Ciencia (Astronomía)"]
      pickGroups := [anyPicks 2] },
    { name := "Policía"
      credit := ⟨9, 30⟩
      pointsFormula := "EDU x 2 + (DES x 2 o FUE x 2)"
      grants :=
        ["Combatir (Pelea)", "Armas de fuego", "Primeros auxilios", "Derecho", "Psicología",
         "Descubrir"]
      pickGroups := [socialPick, ⟨"Transporte", 1,
           ["Conducir automóvil", "Equitación"]⟩] },
    { name := "Profesor"
      credit := ⟨20, 70⟩
      pointsFormula := "EDU x 4"
      grants :=
        ["Buscar libros", "Otras lenguas", "Lengua propia", "Psicología"]
      pickGroups := [⟨"Especialidades académicas", 4,
           ["Antropología", "Arqueología", "Ciencia", "Historia", "Derecho", "Medicina",
            "Ciencias ocultas", "Contabilidad"]⟩] },
    { name := "Sacerdote"
      credit := ⟨9, 60⟩
      pointsFormula := "EDU x 4"
      grants :=
        ["Contabilidad", "Historia", "Buscar libros", "Escuchar", "Otras lenguas", "Psicología"]
      pickGroups := [socialPick, anyPick] },
    { name := "Soldado"
      credit := ⟨9, 30⟩
      pointsFormula := "EDU x 2 + (DES x 2 o FUE x 2)"
      grants :=
        ["Trepar o Nadar", "Esquivar", "Combatir", "Armas de fuego", "Sigilo", "Supervivencia"]
      pickGroups := [⟨"Formación", 2,
           ["Primeros auxilios", "Mecánica", "Otras lenguas"]⟩] },
    { name := "Vagabundo"
      credit := ⟨0, 5⟩
      pointsFormula := "EDU x 2 + (APA x 2 o DES x 2 o FUE x 2)"
      grants :=
        ["Trepar", "Saltar", "Escuchar", "Orientarse", "Sigilo"]
      pickGroups := [socialPick, anyPicks 2] } ]

/-- The finance bands. -/
def standardBands : List FinanceBand :=
  [ ⟨0, 0, 0.5, ⟨0.5, 0⟩, ⟨0, 0⟩⟩,
    ⟨1, 9, 2, ⟨0, 1⟩, ⟨0, 10⟩⟩,
    ⟨10, 49, 10, ⟨0, 2⟩, ⟨0, 50⟩⟩,
    ⟨50, 89, 50, ⟨0, 5⟩, ⟨0, 500⟩⟩,
    ⟨90, 98, 250, ⟨0, 20⟩, ⟨0, 2000⟩⟩,
    ⟨99, 99, 5000, ⟨50000, 0⟩, ⟨5000000, 0⟩⟩ ]

/-- The standard rulebook as written. -/
def standardDocument : RulebookDocument where
  characteristics := SortedMap.ofList standardCharacteristics
  families := standardFamilies
  skills := standardSkills
  occupations := standardOccupations
  bands := standardBands

/-- The standard rulebook. -/
def standard : Except Fault Rulebook :=
  ofDocument standardDocument

end Chargen.Rulebook
