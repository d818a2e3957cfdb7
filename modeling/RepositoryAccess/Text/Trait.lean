import RepositoryAccess.Text.Blank
import RepositoryAccess.Text.Runs

namespace RepositoryAccess.Text

structure Trait where
  names : List String
  holds : Char → Bool

def Trait.ofRuns (names lines : List String) : Trait :=
  let runs := Runs.read lines
  ⟨names, runs.holds⟩

namespace Trait

def alphabetic : Trait := .ofRuns ["Alphabetic", "Alpha"]
  ["65-26+6-26+47-1+10-1+4-1+5-23+1-31+1-458+4-12+14-5+7-1+1-1+86-1+29-18+1-2+2-4+1-1+6-1+1-3+1-",
   "1+1-20+1-83+1-139+8-166+1-38+2-1+6-41+39-14+1-1+1-2+1-2+1-1+8-27+4-4+29-11+5-56+1-7+14-102+",
   "1-8+4-8+4-3+10-3+2-1+16-48+13-101+24-33+9-2+4-1+5-24+2-19+19-25+7-11+5-24+1-7+7-1+8-42+10-",
   "12+3-7+6-76+1-16+1-3+4-15+13-19+1-8+2-2+2-22+1-7+1-1+3-4+3-8+2-2+2-2+1-1+8-1+4-2+1-5+12-2+",
   "10-1+4-3+1-6+4-2+2-22+1-7+1-2+1-2+1-2+4-5+4-2+2-2+4-1+7-4+1-1+17-6+11-3+1-9+1-3+1-22+1-7+1-",
   "2+1-5+3-9+1-3+1-2+3-1+15-4+21-4+4-3+1-8+2-2+2-22+1-7+1-2+1-5+3-8+2-2+2-2+9-2+4-2+1-5+13-1+",
   "16-2+1-6+3-3+1-4+3-2+1-1+1-2+3-2+3-3+3-12+4-5+3-3+1-3+3-1+6-1+40-13+1-3+1-23+1-16+3-8+1-3+1-",
   "3+8-2+1-3+1-2+2-4+28-4+1-8+1-3+1-23+1-10+1-5+3-8+1-3+1-3+8-2+5-3+1-4+13-3+12-13+1-3+1-41+2-",
   "8+1-3+1-3+1-1+5-4+7-5+22-6+1-3+1-18+3-24+1-9+1-1+2-7+8-6+1-1+1-8+18-2+13-58+5-7+6-1+51-2+1-",
   "1+1-5+1-24+1-1+1-19+1-3+2-5+1-1+6-1+14-4+32-1+63-8+1-36+4-19+4-16+1-36+67-55+1-1+2-5+16-64+",
   "10-4+2-38+1-1+5-1+2-43+1-333+1-4+2-7+1-1+1-4+2-41+1-4+2-33+1-4+2-7+1-1+1-4+2-15+1-57+1-4+2-",
   "67+37-16+16-86+2-6+3-620+2-17+1-26+5-75+3-11+7-20+11-21+12-20+12-13+1-3+1-2+12-52+2-19+14-1+",
   "4-1+67-89+7-43+5-70+10-31+1-12+4-9+23-30+2-5+11-44+4-26+54-28+4-63+2-20+50-1+23-2+11-3+49-",
   "52+1-15+1-8+51-42+2-4+10-44+1-11+14-55+22-3+10-36+2-11+5-43+2-3+41-4+1-6+1-2+3-1+5-192+19-",
   "34+11-278+2-6+2-38+2-6+2-8+1-1+1-1+1-1+1-31+2-53+1-7+1-1+3-3+1-7+3-4+2-6+4-13+5-3+1-7+116-1+",
   "13-1+16-13+101-1+4-1+2-10+1-1+3-5+6-1+1-1+1-1+1-4+1-11+2-4+5-5+4-1+17-41+813-52+1814-229+6-",
   "4+3-2+12-38+1-1+5-1+2-56+7-1+16-23+9-7+1-7+1-7+1-7+1-7+1-7+1-7+1-7+1-32+47-1+469-3+25-9+7-5+",
   "2-5+4-86+6-3+1-90+1-4+5-43+1-94+17-32+48-16+512-6592+64-22157+67-46+2-269+3-16+10-2+20-47+5-",
   "8+3-113+39-9+2-103+2-82+20-21+1-33+24-52+12-68+1-1+44-6+3-1+1-3+10-33+5-35+13-29+3-51+1-12+",
   "15-1+16-16+10-5+1-55+9-14+18-23+3-69+1-1+1-1+24-3+2-16+2-4+11-6+2-6+2-6+9-7+1-7+1-43+1-14+6-",
   "123+21-11172+12-23+4-49+8452-366+2-106+38-7+12-5+5-12+1-13+1-5+1-1+1-2+1-2+1-108+33-363+18-",
   "64+2-54+40-12+116-5+1-135+36-26+6-26+11-89+3-6+2-6+2-6+2-3+35-12+1-26+1-19+1-2+1-15+2-14+34-",
   "123+69-53+267-29+3-49+47-32+13-30+5-43+5-30+2-36+4-8+1-5+42-158+18-36+4-36+4-40+8-52+12-11+",
   "1-15+1-7+1-2+1-11+1-15+1-7+1-2+3-52+12-311+9-22+10-8+24-6+1-42+1-9+69-6+2-1+1-44+1-2+3-1+2-",
   "23+10-23+9-31+65-19+1-2+10-22+10-26+6-26+38-56+6-2+64-4+1-2+5-8+1-3+1-29+42-29+3-29+35-8+1-",
   "28+27-54+10-22+10-19+13-18+110-73+55-51+13-51+13-40+34-28+3-1+5-23+250-42+1-2+3-2+16-6+50-3+",
   "3-29+10-1+8-22+42-18+46-21+27-23+9-70+43-5+10-57+9-1+13-25+23-51+17-4+8-35+3-1+9-64+1-4+9-2+",
   "10-1+1-1+35-18+1-34+2-1+6-4+62-7+1-1+1-4+1-15+1-10+7-57+23-4+1-8+2-2+2-22+1-7+1-2+1-5+3-8+2-",
   "2+2-2+3-1+6-1+5-7+28-10+1-1+2-1+1-38+1-10+1-1+2-1+1-4+1-2+3-1+1-1+44-66+1-3+1-4+20-3+30-66+",
   "2-2+1-1+184-54+2-7+25-6+34-63+1-1+3-1+59-54+2-1+71-27+2-14+21-7+185-57+103-64+31-8+2-1+2-8+",
   "1-2+1-30+1-2+2-2+2-4+93-8+2-46+2-6+1-1+1-2+27-51+2-10+17-72+5-1+18-73+103-8+88-33+31-9+1-45+",
   "1-7+1-1+49-30+2-22+1-14+73-7+1-2+1-44+3-1+1-2+1-3+1-1+2-2+24-6+1-2+1-37+1-2+1-4+1-1+23-44+",
   "260-23+9-17+1-41+3-3+111-1+79-922+102-111+17-196+2636-97+15-1072+17-6+25-3995+5-583+6841-47+",
   "1745-569+7-31+17-79+17-30+18-48+16-4+31-21+5-19+432-45+211-64+32-25+2-25+44-75+4-57+7-17+64-",
   "2+1-1+12-7+9-7382+41-32+97-115+8701-4+1-7+1-2+1-291+15-1+29-3+2-1+14-4+8-396+2308-107+5-13+",
   "3-9+7-10+4-1+5985-85+1-71+1-2+2-1+2-2+2-4+1-12+1-1+1-7+1-65+1-4+2-8+1-7+1-28+1-4+1-5+1-1+3-",
   "7+1-340+2-25+1-25+1-31+1-25+1-31+1-25+1-31+1-25+1-31+1-25+1-8+1844-31+6-6+213-7+1-17+2-7+1-",
   "2+1-5+5-62+33-1+112-45+10-7+16-1+321-30+18-44+484-28+228-30+2-1+207-31+1-22+8-2+224-7+1-4+1-",
   "2+1-15+1-197+59-68+3-1+3-1+1204-4+1-27+1-2+1-1+2-1+1-10+1-4+1-1+1-1+6-1+4-1+1-1+1-1+1-3+1-2+",
   "1-1+2-1+1-1+1-1+1-1+1-1+1-2+1-1+2-4+1-7+1-4+1-4+1-1+1-10+1-17+5-3+1-5+1-17+628-26+6-26+6-26+",
   "3702-42720+32-4382+2-5774+2-7473+15-622+2466-542+1506-4939+5-8490+904070-"]

def asciiHexDigit : Trait := .ofRuns ["ASCII_Hex_Digit", "AHex"]
  ["48-10+7-6+26-6+1114009-"]

def bidiControl : Trait := .ofRuns ["Bidi_Control", "Bidi_C"]
  ["1564-1+6641-2+26-5+55-4+1105814-"]

def caseIgnorable : Trait := .ofRuns ["Case_Ignorable", "CI"]
  ["39-1+6-1+11-1+35-1+1-1+71-1+4-1+1-1+4-1+2-2+503-192+4-2+4-1+9-2+1-1+251-7+207-1+5-1+49-45+1-",
   "1+1-2+1-2+1-1+44-1+11-6+10-11+1-1+35-1+10-21+16-1+101-8+1-10+1-4+33-1+1-1+30-27+91-11+58-11+",
   "4-1+2-1+24-24+43-3+44-1+7-2+5-9+41-58+55-1+1-1+4-8+4-1+3-7+10-2+13-1+15-1+58-1+4-4+8-1+20-2+",
   "26-1+2-2+57-1+4-2+4-2+2-3+3-1+30-2+3-1+11-2+57-1+4-5+1-2+4-1+20-2+22-6+1-1+58-1+2-1+1-4+8-1+",
   "7-2+11-2+30-1+61-1+12-1+50-1+3-1+55-1+1-3+5-3+1-4+7-2+11-2+29-1+58-1+2-1+6-1+5-2+20-2+28-2+",
   "57-2+4-4+8-1+20-2+29-1+72-1+7-3+1-1+90-1+2-7+11-9+98-1+2-9+9-1+1-7+73-2+27-1+1-1+1-1+55-14+",
   "1-5+1-2+5-11+1-36+9-1+102-4+1-6+1-2+2-2+25-2+4-3+16-4+13-1+2-2+6-1+15-1+94-1+608-3+946-3+29-",
   "2+30-2+30-2+64-2+1-7+8-1+2-11+3-1+5-1+45-5+51-1+65-2+34-1+118-3+4-2+9-1+6-3+219-2+2-1+58-1+",
   "1-7+1-1+1-1+2-8+6-10+2-1+39-1+8-46+2-12+20-4+48-1+1-5+1-1+5-1+40-9+12-2+32-4+2-2+1-3+56-1+1-",
   "2+3-1+1-3+58-8+2-2+64-6+82-3+1-13+1-7+4-1+6-1+3-2+50-63+13-1+34-101+445-1+1-3+11-3+13-3+13-",
   "3+13-2+12-5+8-2+10-1+2-1+2-5+49-5+1-10+1-1+13-1+16-13+51-33+2955-2+113-3+125-1+15-1+96-32+",
   "47-1+469-1+36-4+3-5+5-1+93-6+93-3+28438-1+1250-6+270-1+98-4+1-10+1-1+28-4+80-2+14-34+78-1+",
   "23-3+102-4+3-2+8-1+3-1+4-1+25-2+5-1+151-2+26-18+13-1+38-8+25-11+46-3+48-1+2-4+2-2+17-1+21-2+",
   "66-6+2-2+2-2+12-1+8-1+35-1+11-1+51-1+1-3+2-2+5-2+1-1+27-1+14-2+5-2+1-1+100-5+9-3+121-1+2-1+",
   "4-1+20272-1+147-17+573-16+3-1+12-16+34-1+2-1+169-1+7-1+6-1+11-1+35-1+1-1+47-1+45-2+67-1+21-",
   "3+513-1+226-1+149-5+1029-6+1-42+1-9+582-3+1-2+5-4+40-3+4-1+165-2+573-4+38-1+26-5+1-1+315-2+",
   "24-1+52-6+70-11+49-4+123-1+54-15+41-1+2-2+10-3+49-4+2-2+2-1+4-1+10-1+50-3+36-5+1-8+62-1+12-",
   "2+52-9+10-4+2-1+95-3+2-1+1-2+6-1+2-1+157-1+3-8+21-2+57-2+3-1+37-7+3-5+70-6+13-1+1-1+1-1+14-",
   "2+85-8+2-3+1-1+23-1+84-6+1-1+4-2+1-2+238-4+6-2+1-2+27-2+85-8+2-1+1-2+106-1+1-1+2-6+1-1+101-",
   "1+1-1+2-4+1-5+259-9+1-2+256-2+1-1+4-1+144-4+2-2+4-1+32-10+40-6+2-4+8-1+9-6+2-3+46-13+1-2+",
   "198-1+1-3+1-1+201-7+1-6+1-1+82-22+2-7+1-2+1-2+122-6+3-1+1-2+1-7+1-1+72-2+3-1+1-1+65-1+281-2+",
   "11-2+52-5+5-1+1-1+23-1+5333-17+6-15+11464-12+3-3+2496-5+59-7+9-4+508-3+40-2+482-1+63-17+64-",
   "2+1-2+13-2+16380-4+1-7+1-2+3230-2+1-4+4700-46+2-23+544-3+9-16+2-7+30-4+148-3+1979-55+4-50+8-",
   "1+14-1+22-5+1-15+1360-7+1-17+2-7+1-2+1-5+5-62+33-1+160-14+368-1+61-4+507-5+254-2+243-1+2-1+",
   "7-2+5-1+9-1+464-7+109-8+2735-5+789505-1+30-96+128-240+196112-"]

def cased : Trait := .ofRuns ["Cased"]
  ["65-26+6-26+47-1+10-1+4-1+5-23+1-31+1-195+1-4+4-208+2-35+7-2+30-5+96-1+42-4+2-2+2-4+1-1+6-1+",
   "1-3+1-1+1-20+1-83+1-139+8-166+1-38+9-41+2839-38+1-1+5-1+2-43+1-4+672-86+2-6+2178-11+5-43+2-",
   "3+64-192+64-278+2-6+2-38+2-6+2-8+1-1+1-1+1-1+1-31+2-53+1-7+1-1+3-3+1-7+3-4+2-6+4-13+5-3+1-7+",
   "116-1+13-1+16-13+101-1+4-1+2-10+1-1+3-5+6-1+1-1+1-1+1-4+1-6+4-1+2-4+5-5+4-1+17-32+3-2+817-",
   "52+1814-229+6-4+3-2+12-38+1-1+5-1+30994-46+18-30+132-102+3-4+1-77+20-6+1-3+821-43+1-14+6-80+",
   "20288-7+12-5+1033-26+6-26+1189-80+96-36+4-36+116-11+1-15+1-7+1-2+1-11+1-15+1-7+1-2+451-1+2-",
   "3+1-42+1-9+1221-51+13-51+93-22+10-22+2842-64+21856-64+32-25+2-25+25900-85+1-71+1-2+2-1+2-2+",
   "2-4+1-12+1-1+1-7+1-65+1-4+2-8+1-7+1-28+1-4+1-5+1-1+3-7+1-340+2-25+1-25+1-31+1-25+1-31+1-25+",
   "1-31+1-25+1-31+1-25+1-8+1844-10+1-20+6-6+261-62+2194-68+2028-26+6-26+6-26+986742-"]

def changesWhenCasefolded : Trait := .ofRuns ["Changes_When_Casefolded", "CWCF"]
  ["65-26+90-1+10-23+1-8+32-1+1-1+1-1+1-1+1-1+1-1+1-1+1-1+1-1+1-1+1-1+1-1+1-1+1-1+1-1+1-1+1-1+1-",
   "1+1-1+1-1+1-1+1-1+1-1+1-1+1-1+1-1+1-1+1-1+2-1+1-1+1-1+1-1+1-1+1-1+1-1+1-1+1-2+1-1+1-1+1-1+1-",
   "1+1-1+1-1+1-1+1-1+1-1+1-1+1-1+1-1+1-1+1-1+1-1+1-1+1-1+1-1+1-1+1-1+1-1+1-1+1-2+1-1+1-1+1-1+1-",
   "2+1-1+1-2+1-3+2-4+1-2+1-3+3-2+1-2+1-1+1-1+1-2+1-1+2-1+1-2+1-3+1-1+1-2+3-1+7-2+1-2+1-2+1-1+1-",
   "1+1-1+1-1+1-1+1-1+1-1+1-1+2-1+1-1+1-1+1-1+1-1+1-1+1-1+1-1+1-1+2-2+1-1+1-3+1-1+1-1+1-1+1-1+1-",
   "1+1-1+1-1+1-1+1-1+1-1+1-1+1-1+1-1+1-1+1-1+1-1+1-1+1-1+1-1+1-1+1-1+1-1+1-1+1-1+1-1+1-1+1-1+1-",
   "1+1-1+7-2+1-2+2-1+1-4+1-1+1-1+1-1+1-1+246-1+42-1+1-1+3-1+8-1+6-1+1-3+1-1+1-2+1-17+1-9+22-1+",
   "12-3+3-2+1-1+1-1+1-1+1-1+1-1+1-1+1-1+1-1+1-1+1-1+1-1+1-1+1-2+2-2+1-1+1-2+2-51+48-1+1-1+1-1+",
   "1-1+1-1+1-1+1-1+1-1+1-1+1-1+1-1+1-1+1-1+1-1+1-1+1-1+1-1+9-1+1-1+1-1+1-1+1-1+1-1+1-1+1-1+1-1+",
   "1-1+1-1+1-1+1-1+1-1+1-1+1-1+1-1+1-1+1-1+1-1+1-1+1-1+1-1+1-1+1-1+1-1+1-1+1-2+1-1+1-1+1-1+1-1+",
   "1-1+1-1+2-1+1-1+1-1+1-1+1-1+1-1+1-1+1-1+1-1+1-1+1-1+1-1+1-1+1-1+1-1+1-1+1-1+1-1+1-1+1-1+1-1+",
   "1-1+1-1+1-1+1-1+1-1+1-1+1-1+1-1+1-1+1-1+1-1+1-1+1-1+1-1+1-1+1-1+1-1+1-1+1-1+1-1+1-1+1-1+1-1+",
   "1-1+1-1+1-1+1-1+2-38+48-1+2840-38+1-1+5-1+810-6+2178-10+6-43+2-3+320-1+1-1+1-1+1-1+1-1+1-1+",
   "1-1+1-1+1-1+1-1+1-1+1-1+1-1+1-1+1-1+1-1+1-1+1-1+1-1+1-1+1-1+1-1+1-1+1-1+1-1+1-1+1-1+1-1+1-1+",
   "1-1+1-1+1-1+1-1+1-1+1-1+1-1+1-1+1-1+1-1+1-1+1-1+1-1+1-1+1-1+1-1+1-1+1-1+1-1+1-1+1-1+1-1+1-1+",
   "1-1+1-1+1-1+1-1+1-1+1-1+1-1+1-1+1-1+1-1+1-1+1-1+1-1+1-1+1-1+1-1+1-1+1-1+1-1+1-1+1-1+1-1+1-1+",
   "5-2+2-1+1-1+1-1+1-1+1-1+1-1+1-1+1-1+1-1+1-1+1-1+1-1+1-1+1-1+1-1+1-1+1-1+1-1+1-1+1-1+1-1+1-1+",
   "1-1+1-1+1-1+1-1+1-1+1-1+1-1+1-1+1-1+1-1+1-1+1-1+1-1+1-1+1-1+1-1+1-1+1-1+1-1+1-1+1-1+1-1+1-1+",
   "1-1+1-1+1-1+1-1+9-8+8-6+10-8+8-8+8-6+11-1+1-1+1-1+1-1+8-8+16-48+2-3+2-6+5-3+2-6+11-4+12-5+5-",
   "3+2-6+297-1+3-2+6-1+45-16+19-1+818-26+1840-48+48-1+1-3+2-1+1-1+1-1+1-4+1-1+2-1+8-3+1-1+1-1+",
   "1-1+1-1+1-1+1-1+1-1+1-1+1-1+1-1+1-1+1-1+1-1+1-1+1-1+1-1+1-1+1-1+1-1+1-1+1-1+1-1+1-1+1-1+1-1+",
   "1-1+1-1+1-1+1-1+1-1+1-1+1-1+1-1+1-1+1-1+1-1+1-1+1-1+1-1+1-1+1-1+1-1+1-1+1-1+1-1+1-1+1-1+1-1+",
   "1-1+8-1+1-1+4-1+31053-1+1-1+1-1+1-1+1-1+1-1+1-1+1-1+1-1+1-1+1-1+1-1+1-1+1-1+1-1+1-1+1-1+1-1+",
   "1-1+1-1+1-1+1-1+1-1+19-1+1-1+1-1+1-1+1-1+1-1+1-1+1-1+1-1+1-1+1-1+1-1+1-1+1-1+135-1+1-1+1-1+",
   "1-1+1-1+1-1+1-1+3-1+1-1+1-1+1-1+1-1+1-1+1-1+1-1+1-1+1-1+1-1+1-1+1-1+1-1+1-1+1-1+1-1+1-1+1-1+",
   "1-1+1-1+1-1+1-1+1-1+1-1+1-1+1-1+1-1+1-1+1-1+1-1+10-1+1-1+1-2+1-1+1-1+1-1+1-1+4-1+1-1+2-1+1-",
   "1+3-1+1-1+1-1+1-1+1-1+1-1+1-1+1-1+1-1+1-1+1-5+1-5+1-1+1-1+1-1+1-1+1-1+1-1+1-1+1-4+1-1+1-2+1-",
   "1+1-1+1-1+1-1+1-1+1-1+1-1+1-1+24-1+890-80+20288-7+12-5+1033-26+1221-40+136-36+156-11+1-15+1-",
   "7+1-2+1770-51+157-22+2874-32+21888-32+64-25+31303-34+988894-"]

def changesWhenCasemapped : Trait := .ofRuns ["Changes_When_Casemapped", "CWCM"]
  ["65-26+6-26+58-1+10-23+1-31+1-64+1-84+1-28+2-14+2-2+1-1+4-93+1-18+6-27+1-2+1-1+1-2+3-2+1-4+1-",
   "5+2-1+1-2+2-1+7-1+2-1+1-2+3-6+5-1+10-2+166-1+42-4+2-2+3-3+1-1+6-1+1-3+1-1+1-20+1-47+3-33+1-",
   "5+1-133+8-166+1-38+10-39+2840-38+1-1+5-1+2-43+2-3+672-86+2-6+2178-11+5-43+2-3+185-1+3-1+16-",
   "1+113-156+2-1+1-118+2-6+2-38+2-6+2-8+1-1+1-1+1-1+1-31+2-53+1-7+1-1+3-3+1-7+3-4+2-6+4-13+5-3+",
   "1-7+297-1+3-2+6-1+27-1+17-32+3-2+817-52+1814-113+1-2+1-2+7-102+7-4+3-2+12-38+1-1+5-1+30994-",
   "46+18-28+134-14+2-62+9-15+3-3+2-5+1-25+1-45+24-2+860-1+28-80+20288-7+12-5+1033-26+6-26+1189-",
   "80+96-36+4-36+116-11+1-15+1-7+1-2+1-11+1-15+1-7+1-2+1731-51+13-51+93-22+10-22+2842-64+21856-",
   "64+32-25+2-25+31276-68+988860-"]

def changesWhenLowercased : Trait := .ofRuns ["Changes_When_Lowercased", "CWL"]
  ["65-26+101-23+1-7+33-1+1-1+1-1+1-1+1-1+1-1+1-1+1-1+1-1+1-1+1-1+1-1+1-1+1-1+1-1+1-1+1-1+1-1+1-",
   "1+1-1+1-1+1-1+1-1+1-1+1-1+1-1+1-1+1-1+2-1+1-1+1-1+1-1+1-1+1-1+1-1+1-1+2-1+1-1+1-1+1-1+1-1+1-",
   "1+1-1+1-1+1-1+1-1+1-1+1-1+1-1+1-1+1-1+1-1+1-1+1-1+1-1+1-1+1-1+1-1+1-1+1-2+1-1+1-1+3-2+1-1+1-",
   "2+1-3+2-4+1-2+1-3+3-2+1-2+1-1+1-1+1-2+1-1+2-1+1-2+1-3+1-1+1-2+3-1+7-2+1-2+1-2+1-1+1-1+1-1+1-",
   "1+1-1+1-1+1-1+1-1+2-1+1-1+1-1+1-1+1-1+1-1+1-1+1-1+1-1+2-2+1-1+1-3+1-1+1-1+1-1+1-1+1-1+1-1+1-",
   "1+1-1+1-1+1-1+1-1+1-1+1-1+1-1+1-1+1-1+1-1+1-1+1-1+1-1+1-1+1-1+1-1+1-1+1-1+1-1+1-1+1-1+1-1+7-",
   "2+1-2+2-1+1-4+1-1+1-1+1-1+1-1+289-1+1-1+3-1+8-1+6-1+1-3+1-1+1-2+1-17+1-9+35-1+8-1+1-1+1-1+1-",
   "1+1-1+1-1+1-1+1-1+1-1+1-1+1-1+1-1+5-1+2-1+1-2+2-51+48-1+1-1+1-1+1-1+1-1+1-1+1-1+1-1+1-1+1-1+",
   "1-1+1-1+1-1+1-1+1-1+1-1+1-1+9-1+1-1+1-1+1-1+1-1+1-1+1-1+1-1+1-1+1-1+1-1+1-1+1-1+1-1+1-1+1-1+",
   "1-1+1-1+1-1+1-1+1-1+1-1+1-1+1-1+1-1+1-1+1-1+1-2+1-1+1-1+1-1+1-1+1-1+1-1+2-1+1-1+1-1+1-1+1-1+",
   "1-1+1-1+1-1+1-1+1-1+1-1+1-1+1-1+1-1+1-1+1-1+1-1+1-1+1-1+1-1+1-1+1-1+1-1+1-1+1-1+1-1+1-1+1-1+",
   "1-1+1-1+1-1+1-1+1-1+1-1+1-1+1-1+1-1+1-1+1-1+1-1+1-1+1-1+1-1+1-1+1-1+1-1+1-1+1-1+2-38+2889-",
   "38+1-1+5-1+722-86+2195-1+6-43+2-3+320-1+1-1+1-1+1-1+1-1+1-1+1-1+1-1+1-1+1-1+1-1+1-1+1-1+1-1+",
   "1-1+1-1+1-1+1-1+1-1+1-1+1-1+1-1+1-1+1-1+1-1+1-1+1-1+1-1+1-1+1-1+1-1+1-1+1-1+1-1+1-1+1-1+1-1+",
   "1-1+1-1+1-1+1-1+1-1+1-1+1-1+1-1+1-1+1-1+1-1+1-1+1-1+1-1+1-1+1-1+1-1+1-1+1-1+1-1+1-1+1-1+1-1+",
   "1-1+1-1+1-1+1-1+1-1+1-1+1-1+1-1+1-1+1-1+1-1+1-1+1-1+1-1+1-1+9-1+1-1+1-1+1-1+1-1+1-1+1-1+1-1+",
   "1-1+1-1+1-1+1-1+1-1+1-1+1-1+1-1+1-1+1-1+1-1+1-1+1-1+1-1+1-1+1-1+1-1+1-1+1-1+1-1+1-1+1-1+1-1+",
   "1-1+1-1+1-1+1-1+1-1+1-1+1-1+1-1+1-1+1-1+1-1+1-1+1-1+1-1+1-1+1-1+1-1+1-1+9-8+8-6+10-8+8-8+8-",
   "6+11-1+1-1+1-1+1-1+8-8+24-8+8-8+8-8+8-5+11-5+11-4+12-5+11-5+297-1+3-2+6-1+45-16+19-1+818-26+",
   "1840-48+48-1+1-3+2-1+1-1+1-1+1-4+1-1+2-1+8-3+1-1+1-1+1-1+1-1+1-1+1-1+1-1+1-1+1-1+1-1+1-1+1-",
   "1+1-1+1-1+1-1+1-1+1-1+1-1+1-1+1-1+1-1+1-1+1-1+1-1+1-1+1-1+1-1+1-1+1-1+1-1+1-1+1-1+1-1+1-1+1-",
   "1+1-1+1-1+1-1+1-1+1-1+1-1+1-1+1-1+1-1+1-1+1-1+1-1+1-1+1-1+8-1+1-1+4-1+31053-1+1-1+1-1+1-1+1-",
   "1+1-1+1-1+1-1+1-1+1-1+1-1+1-1+1-1+1-1+1-1+1-1+1-1+1-1+1-1+1-1+1-1+1-1+1-1+19-1+1-1+1-1+1-1+",
   "1-1+1-1+1-1+1-1+1-1+1-1+1-1+1-1+1-1+1-1+135-1+1-1+1-1+1-1+1-1+1-1+1-1+3-1+1-1+1-1+1-1+1-1+1-",
   "1+1-1+1-1+1-1+1-1+1-1+1-1+1-1+1-1+1-1+1-1+1-1+1-1+1-1+1-1+1-1+1-1+1-1+1-1+1-1+1-1+1-1+1-1+1-",
   "1+1-1+1-1+10-1+1-1+1-2+1-1+1-1+1-1+1-1+4-1+1-1+2-1+1-1+3-1+1-1+1-1+1-1+1-1+1-1+1-1+1-1+1-1+",
   "1-1+1-5+1-5+1-1+1-1+1-1+1-1+1-1+1-1+1-1+1-4+1-1+1-2+1-1+1-1+1-1+1-1+1-1+1-1+1-1+1-1+24-1+",
   "22315-26+1221-40+136-36+156-11+1-15+1-7+1-2+1770-51+157-22+2874-32+21888-32+64-25+31303-34+",
   "988894-"]

def changesWhenTitlecased : Trait := .ofRuns ["Changes_When_Titlecased", "CWT"]
  ["97-26+58-1+41-24+1-8+1-1+1-1+1-1+1-1+1-1+1-1+1-1+1-1+1-1+1-1+1-1+1-1+1-1+1-1+1-1+1-1+1-1+1-",
   "1+1-1+1-1+1-1+1-1+1-1+1-1+1-1+1-1+1-1+1-1+2-1+1-1+1-1+1-1+1-1+1-1+1-1+1-2+1-1+1-1+1-1+1-1+1-",
   "1+1-1+1-1+1-1+1-1+1-1+1-1+1-1+1-1+1-1+1-1+1-1+1-1+1-1+1-1+1-1+1-1+1-1+1-1+2-1+1-1+1-3+2-1+1-",
   "1+2-1+3-1+5-1+2-1+3-3+2-1+2-1+1-1+1-1+2-1+4-1+2-1+3-1+1-1+2-1+3-1+1-1+4-1+1-2+1-2+1-1+1-1+1-",
   "1+1-1+1-1+1-1+1-1+1-1+1-2+1-1+1-1+1-1+1-1+1-1+1-1+1-1+1-1+1-3+1-1+1-1+3-1+1-1+1-1+1-1+1-1+1-",
   "1+1-1+1-1+1-1+1-1+1-1+1-1+1-1+1-1+1-1+1-1+1-1+1-1+1-1+1-1+3-1+1-1+1-1+1-1+1-1+1-1+1-1+1-1+1-",
   "1+8-1+2-2+1-1+4-1+1-1+1-1+1-1+1-6+1-2+1-1+1-2+3-2+1-4+1-5+2-1+1-2+2-1+7-1+2-1+1-2+3-6+5-1+",
   "10-2+166-1+43-1+1-1+3-1+3-3+18-1+27-35+1-2+3-3+1-1+1-1+1-1+1-1+1-1+1-1+1-1+1-1+1-1+1-1+1-1+",
   "1-5+1-1+2-1+2-1+52-48+1-1+1-1+1-1+1-1+1-1+1-1+1-1+1-1+1-1+1-1+1-1+1-1+1-1+1-1+1-1+1-1+1-1+9-",
   "1+1-1+1-1+1-1+1-1+1-1+1-1+1-1+1-1+1-1+1-1+1-1+1-1+1-1+1-1+1-1+1-1+1-1+1-1+1-1+1-1+1-1+1-1+1-",
   "1+1-1+1-1+1-1+2-1+1-1+1-1+1-1+1-1+1-1+1-2+1-1+1-1+1-1+1-1+1-1+1-1+1-1+1-1+1-1+1-1+1-1+1-1+1-",
   "1+1-1+1-1+1-1+1-1+1-1+1-1+1-1+1-1+1-1+1-1+1-1+1-1+1-1+1-1+1-1+1-1+1-1+1-1+1-1+1-1+1-1+1-1+1-",
   "1+1-1+1-1+1-1+1-1+1-1+1-1+1-1+1-1+1-1+1-1+1-1+1-1+49-39+3696-6+2178-9+1-1+238-1+3-1+16-1+",
   "114-1+1-1+1-1+1-1+1-1+1-1+1-1+1-1+1-1+1-1+1-1+1-1+1-1+1-1+1-1+1-1+1-1+1-1+1-1+1-1+1-1+1-1+1-",
   "1+1-1+1-1+1-1+1-1+1-1+1-1+1-1+1-1+1-1+1-1+1-1+1-1+1-1+1-1+1-1+1-1+1-1+1-1+1-1+1-1+1-1+1-1+1-",
   "1+1-1+1-1+1-1+1-1+1-1+1-1+1-1+1-1+1-1+1-1+1-1+1-1+1-1+1-1+1-1+1-1+1-1+1-1+1-1+1-1+1-1+1-1+1-",
   "1+1-1+1-1+1-1+1-1+1-1+1-7+5-1+1-1+1-1+1-1+1-1+1-1+1-1+1-1+1-1+1-1+1-1+1-1+1-1+1-1+1-1+1-1+1-",
   "1+1-1+1-1+1-1+1-1+1-1+1-1+1-1+1-1+1-1+1-1+1-1+1-1+1-1+1-1+1-1+1-1+1-1+1-1+1-1+1-1+1-1+1-1+1-",
   "1+1-1+1-1+1-1+1-1+1-1+1-1+1-1+1-9+8-6+10-8+8-8+8-6+10-8+8-8+8-14+2-8+8-8+8-8+8-5+1-2+6-1+3-",
   "3+1-2+8-4+2-2+8-8+10-3+1-2+342-1+33-16+4-1+843-26+1862-48+1-1+3-2+1-1+1-1+1-1+6-1+2-1+10-1+",
   "1-1+1-1+1-1+1-1+1-1+1-1+1-1+1-1+1-1+1-1+1-1+1-1+1-1+1-1+1-1+1-1+1-1+1-1+1-1+1-1+1-1+1-1+1-1+",
   "1-1+1-1+1-1+1-1+1-1+1-1+1-1+1-1+1-1+1-1+1-1+1-1+1-1+1-1+1-1+1-1+1-1+1-1+1-1+1-1+1-1+1-1+1-1+",
   "1-1+1-1+1-1+8-1+1-1+4-1+12-38+1-1+5-1+30995-1+1-1+1-1+1-1+1-1+1-1+1-1+1-1+1-1+1-1+1-1+1-1+1-",
   "1+1-1+1-1+1-1+1-1+1-1+1-1+1-1+1-1+1-1+1-1+19-1+1-1+1-1+1-1+1-1+1-1+1-1+1-1+1-1+1-1+1-1+1-1+",
   "1-1+1-1+135-1+1-1+1-1+1-1+1-1+1-1+1-1+3-1+1-1+1-1+1-1+1-1+1-1+1-1+1-1+1-1+1-1+1-1+1-1+1-1+1-",
   "1+1-1+1-1+1-1+1-1+1-1+1-1+1-1+1-1+1-1+1-1+1-1+1-1+1-1+1-1+1-1+1-1+1-1+10-1+1-1+2-1+1-1+1-1+",
   "1-1+1-1+4-1+4-1+1-2+2-1+1-1+1-1+1-1+1-1+1-1+1-1+1-1+1-1+1-1+11-1+1-1+1-1+1-1+1-1+1-1+1-1+1-",
   "1+4-1+1-1+2-1+1-1+1-1+1-1+1-1+1-1+1-1+1-1+26-1+860-1+28-80+20288-7+12-5+1065-26+1229-40+136-",
   "36+155-11+1-15+1-7+1-2+1795-51+125-22+2874-32+21888-32+59-25+31310-34+988860-"]

def changesWhenUppercased : Trait := .ofRuns ["Changes_When_Uppercased", "CWU"]
  ["97-26+58-1+41-24+1-8+1-1+1-1+1-1+1-1+1-1+1-1+1-1+1-1+1-1+1-1+1-1+1-1+1-1+1-1+1-1+1-1+1-1+1-",
   "1+1-1+1-1+1-1+1-1+1-1+1-1+1-1+1-1+1-1+1-1+2-1+1-1+1-1+1-1+1-1+1-1+1-1+1-2+1-1+1-1+1-1+1-1+1-",
   "1+1-1+1-1+1-1+1-1+1-1+1-1+1-1+1-1+1-1+1-1+1-1+1-1+1-1+1-1+1-1+1-1+1-1+1-1+2-1+1-1+1-3+2-1+1-",
   "1+2-1+3-1+5-1+2-1+3-3+2-1+2-1+1-1+1-1+2-1+4-1+2-1+3-1+1-1+2-1+3-1+1-1+5-2+1-2+1-2+1-1+1-1+1-",
   "1+1-1+1-1+1-1+1-1+1-2+1-1+1-1+1-1+1-1+1-1+1-1+1-1+1-1+1-2+1-2+1-1+3-1+1-1+1-1+1-1+1-1+1-1+1-",
   "1+1-1+1-1+1-1+1-1+1-1+1-1+1-1+1-1+1-1+1-1+1-1+1-1+1-1+3-1+1-1+1-1+1-1+1-1+1-1+1-1+1-1+1-1+8-",
   "1+2-2+1-1+4-1+1-1+1-1+1-1+1-6+1-2+1-1+1-2+3-2+1-4+1-5+2-1+1-2+2-1+7-1+2-1+1-2+3-6+5-1+10-2+",
   "166-1+43-1+1-1+3-1+3-3+18-1+27-35+1-2+3-3+1-1+1-1+1-1+1-1+1-1+1-1+1-1+1-1+1-1+1-1+1-1+1-5+1-",
   "1+2-1+2-1+52-48+1-1+1-1+1-1+1-1+1-1+1-1+1-1+1-1+1-1+1-1+1-1+1-1+1-1+1-1+1-1+1-1+1-1+9-1+1-1+",
   "1-1+1-1+1-1+1-1+1-1+1-1+1-1+1-1+1-1+1-1+1-1+1-1+1-1+1-1+1-1+1-1+1-1+1-1+1-1+1-1+1-1+1-1+1-1+",
   "1-1+1-1+2-1+1-1+1-1+1-1+1-1+1-1+1-2+1-1+1-1+1-1+1-1+1-1+1-1+1-1+1-1+1-1+1-1+1-1+1-1+1-1+1-1+",
   "1-1+1-1+1-1+1-1+1-1+1-1+1-1+1-1+1-1+1-1+1-1+1-1+1-1+1-1+1-1+1-1+1-1+1-1+1-1+1-1+1-1+1-1+1-1+",
   "1-1+1-1+1-1+1-1+1-1+1-1+1-1+1-1+1-1+1-1+1-1+49-39+2888-43+2-3+760-6+2178-9+1-1+238-1+3-1+16-",
   "1+114-1+1-1+1-1+1-1+1-1+1-1+1-1+1-1+1-1+1-1+1-1+1-1+1-1+1-1+1-1+1-1+1-1+1-1+1-1+1-1+1-1+1-1+",
   "1-1+1-1+1-1+1-1+1-1+1-1+1-1+1-1+1-1+1-1+1-1+1-1+1-1+1-1+1-1+1-1+1-1+1-1+1-1+1-1+1-1+1-1+1-1+",
   "1-1+1-1+1-1+1-1+1-1+1-1+1-1+1-1+1-1+1-1+1-1+1-1+1-1+1-1+1-1+1-1+1-1+1-1+1-1+1-1+1-1+1-1+1-1+",
   "1-1+1-1+1-1+1-1+1-1+1-1+1-7+5-1+1-1+1-1+1-1+1-1+1-1+1-1+1-1+1-1+1-1+1-1+1-1+1-1+1-1+1-1+1-1+",
   "1-1+1-1+1-1+1-1+1-1+1-1+1-1+1-1+1-1+1-1+1-1+1-1+1-1+1-1+1-1+1-1+1-1+1-1+1-1+1-1+1-1+1-1+1-1+",
   "1-1+1-1+1-1+1-1+1-1+1-1+1-1+1-1+1-9+8-6+10-8+8-8+8-6+10-8+8-8+8-14+2-53+1-2+4-1+1-1+3-3+1-2+",
   "4-1+3-4+2-2+8-8+10-3+1-2+4-1+337-1+33-16+4-1+843-26+1862-48+1-1+3-2+1-1+1-1+1-1+6-1+2-1+10-",
   "1+1-1+1-1+1-1+1-1+1-1+1-1+1-1+1-1+1-1+1-1+1-1+1-1+1-1+1-1+1-1+1-1+1-1+1-1+1-1+1-1+1-1+1-1+1-",
   "1+1-1+1-1+1-1+1-1+1-1+1-1+1-1+1-1+1-1+1-1+1-1+1-1+1-1+1-1+1-1+1-1+1-1+1-1+1-1+1-1+1-1+1-1+1-",
   "1+1-1+1-1+1-1+8-1+1-1+4-1+12-38+1-1+5-1+30995-1+1-1+1-1+1-1+1-1+1-1+1-1+1-1+1-1+1-1+1-1+1-1+",
   "1-1+1-1+1-1+1-1+1-1+1-1+1-1+1-1+1-1+1-1+1-1+19-1+1-1+1-1+1-1+1-1+1-1+1-1+1-1+1-1+1-1+1-1+1-",
   "1+1-1+1-1+135-1+1-1+1-1+1-1+1-1+1-1+1-1+3-1+1-1+1-1+1-1+1-1+1-1+1-1+1-1+1-1+1-1+1-1+1-1+1-1+",
   "1-1+1-1+1-1+1-1+1-1+1-1+1-1+1-1+1-1+1-1+1-1+1-1+1-1+1-1+1-1+1-1+1-1+1-1+10-1+1-1+2-1+1-1+1-",
   "1+1-1+1-1+4-1+4-1+1-2+2-1+1-1+1-1+1-1+1-1+1-1+1-1+1-1+1-1+1-1+11-1+1-1+1-1+1-1+1-1+1-1+1-1+",
   "1-1+4-1+1-1+2-1+1-1+1-1+1-1+1-1+1-1+1-1+1-1+26-1+860-1+28-80+20288-7+12-5+1065-26+1229-40+",
   "136-36+155-11+1-15+1-7+1-2+1795-51+125-22+2874-32+21888-32+59-25+31310-34+988860-"]

def dash : Trait := .ofRuns ["Dash"]
  ["45-1+1372-1+51-1+3649-1+1029-1+2057-6+61-1+39-1+15-1+390-1+3076-1+2-1+31-2+4-1+28-1+446-1+",
   "19-1+111-1+52624-2+37-1+10-1+169-1+3680-1+318-1+1044818-"]

def defaultIgnorableCodePoint : Trait := .ofRuns ["Default_Ignorable_Code_Point", "DI"]
  ["173-1+673-1+716-1+2882-2+1619-2+85-5+2043-5+26-5+49-16+4340-1+52379-16+239-1+160-1+79-9+",
   "48295-4+5327-8+798341-4096+192512-"]

def deprecated : Trait := .ofRuns ["Deprecated", "Dep"]
  ["329-1+1321-1+2307-1+1-1+2089-2+2245-6+697-2+908502-1+196606-"]

def diacritic : Trait := .ofRuns ["Diacritic", "Dia"]
  ["94-1+1-1+71-1+6-1+4-1+2-2+503-159+1-8+5-6+17-2+4-1+9-2+253-5+209-1+55-45+1-1+1-2+1-2+1-1+",
   "131-8+4-2+134-2+4-2+3-3+67-27+91-11+58-11+34-2+126-8+41-10+16-28+61-1+16-1+3-4+28-1+74-1+16-",
   "1+110-1+16-1+110-1+16-1+47-3+60-1+16-1+7-1+119-1+110-1+16-1+110-1+16-1+109-2+16-1+124-1+111-",
   "1+12-6+1-1+107-1+13-5+75-2+27-1+1-1+1-1+4-2+66-3+1-2+62-1+112-1+1-2+40-2+4-5+25-7+1-1+10-2+",
   "705-3+948-2+30-1+148-11+9-1+347-3+292-1+20-8+2-1+48-15+2-11+3-15+2-12+72-1+15-1+38-9+54-2+",
   "58-1+11-2+66-2+64-6+82-25+4-1+6-1+2-3+50-63+48-36+5-12+37-11+445-1+1-3+11-3+13-3+13-3+13-2+",
   "3312-3+317-1+506-6+105-4+95-1+30066-1+12-2+1-1+28-2+82-2+14-34+102-3+102-1+6-2+12-1+37-1+",
   "151-1+27-18+57-4+36-1+95-1+12-1+36-1+149-3+65-4+51-1+100-5+9-3+128-2+20272-1+769-16+270-1+1-",
   "1+47-1+45-2+67-1+764-1+1183-6+1-42+1-9+637-3+4-1+165-2+571-6+38-1+26-5+396-1+2-3+70-11+49-4+",
   "192-1+41-1+72-2+120-2+62-1+76-1+9-3+104-2+178-2+80-2+16-1+24-7+3-5+89-3+1-2+13-2+95-1+3-1+",
   "123-2+251-2+126-1+118-2+115-1+269-2+258-2+4-1+156-1+83-1+18-1+81-1+421-1+258-1+1-2+81-1+65-",
   "1+359-2+23-1+5356-15+11481-1+2496-5+59-7+564-2+546-17+80-2+16382-4+1-7+1-2+7937-46+2-23+544-",
   "3+3-6+8-8+2-7+30-4+3714-62+194-7+375-1+61-4+766-2+736-7+109-3+1-3+988853-"]

def emoji : Trait := .ofRuns ["Emoji"]
  ["35-1+6-1+5-10+111-1+4-1+8077-1+12-1+216-1+22-1+90-6+15-2+367-2+12-1+166-1+25-11+4-3+199-1+",
   "231-2+10-1+9-1+58-4+1-5+9-1+2-1+2-2+2-1+4-1+2-1+1-2+2-1+3-1+3-2+8-3+5-1+1-1+5-12+11-2+2-1+1-",
   "2+1-1+18-1+2-2+18-6+1-1+1-2+3-2+5-1+2-2+4-2+11-2+5-2+2-1+5-2+1-1+1-2+20-2+5-6+1-4+2-1+4-1+2-",
   "1+2-6+1-1+2-1+1-1+1-1+6-1+3-1+6-1+10-2+15-1+2-1+4-1+1-1+4-3+1-1+11-2+48-3+9-1+14-1+14-1+372-",
   "2+463-3+19-2+51-1+4-1+1242-1+12-1+601-1+1-1+114026-1+202-1+160-2+12-2+14-1+2-10+75-26+1-2+",
   "23-1+20-1+2-9+21-2+174-34+2-112+2-2+1-3+2-83+2-3+1-263+1-63+11-6+1-24+7-2+2-8+12-1+2-4+2-1+",
   "4-2+13-2+2-1+8-2+9-1+5-3+12-3+8-3+2-1+1-1+4-1+6-1+3-1+6-86+48-70+5-8+2-4+3-10+3-1+1-2+3-1+2-",
   "10+227-12+4-1+283-47+1-10+1-185+112-13+3-11+3-57+1-1+4-16+2-12+4-10+984327-"]

def emojiComponent : Trait := .ofRuns ["Emoji_Component", "EComp"]
  ["35-1+6-1+5-10+8147-1+213-1+56619-1+62422-26+507-5+1456-4+788076-96+196480-"]

def emojiModifier : Trait := .ofRuns ["Emoji_Modifier", "EMod"]
  ["127995-5+986112-"]

def emojiModifierBase : Trait := .ofRuns ["Emoji_Modifier_Base", "EBase"]
  ["9757-1+219-1+16-4+117879-1+60-3+2-1+2-3+117-2+2-11+21-19+3-1+4-3+1-3+7-1+1-1+24-1+201-2+4-1+",
   "21-1+4-2+174-3+3-5+83-1+16-3+9-1+11-1+575-1+2-1+8-8+6-1+9-10+2-3+56-1+61-2+1-2+1-1+17-3+1-",
   "13+229-3+42-9+984327-"]

def emojiPresentation : Trait := .ofRuns ["Emoji_Presentation", "EPres"]
  ["8986-2+205-4+3-1+2-1+521-2+21-2+50-12+43-1+19-1+13-1+8-2+17-2+5-2+8-1+5-1+21-1+7-2+1-1+4-1+",
   "2-1+7-1+4-2+28-1+35-1+1-1+4-3+1-1+61-3+24-1+14-1+859-2+51-1+4-1+115886-1+202-1+190-1+2-10+",
   "75-26+1-1+24-1+20-1+2-5+1-3+21-2+174-33+12-9+1-70+1-22+12-43+4-5+12-17+3-1+3-71+1-1+1-187+2-",
   "63+13-4+1-24+18-1+26-2+13-1+86-85+48-70+6-1+3-3+2-4+3-4+11-2+7-9+227-12+4-1+283-47+1-10+1-",
   "185+112-13+3-11+3-57+1-1+4-16+2-12+4-10+984327-"]

def extendedPictographic : Trait := .ofRuns ["Extended_Pictographic", "ExtPict"]
  ["169-1+4-1+8077-1+12-1+216-1+22-1+90-6+15-2+367-2+12-1+166-1+25-11+4-3+199-1+231-2+10-1+9-1+",
   "58-4+1-5+9-1+2-1+2-2+2-1+4-1+2-1+1-2+2-1+3-1+3-2+8-3+5-1+1-1+5-12+11-2+2-1+1-2+1-1+18-1+2-2+",
   "18-6+1-1+1-2+3-2+5-1+2-2+4-2+11-2+5-2+2-1+5-2+1-1+1-2+20-2+5-6+1-4+2-1+4-1+2-1+2-6+1-1+2-1+",
   "1-1+1-1+6-1+3-1+6-1+10-2+15-1+2-1+4-1+1-1+4-3+1-1+11-2+48-3+9-1+14-1+14-1+372-2+463-3+19-2+",
   "51-1+4-1+1242-1+12-1+601-1+1-1+114026-1+39-4+100-12+15-2+15-1+14-2+37-10+112-2+12-2+14-1+2-",
   "10+19-56+27-15+10-1+20-1+2-9+1-4+9-23+6-188+2-112+2-2+1-3+2-83+2-3+1-4+5-254+1-63+11-6+1-24+",
   "7-2+2-8+12-1+2-4+2-1+4-2+13-2+2-1+8-2+9-1+5-3+12-3+8-3+2-1+1-1+4-1+6-1+3-1+6-86+48-70+5-8+2-",
   "17+3-1+1-6+2-13+218-38+12-4+56-8+10-6+40-8+30-2+12-4+2-14+9-39+12-47+1-10+1-185+88-8+14-146+",
   "256-1022+983042-"]

def extender : Trait := .ofRuns ["Extender", "Ext"]
  ["183-1+536-2+878-1+441-1+630-1+137-1+89-1+752-1+127-1+2371-1+56-1+611-1+398-1+68-1+5001-1+43-",
   "5+103-2+93-3+28438-1+1526-1+962-1+22-1+137-1+108-1+21-2+21627-1+2064-2+1483-1+27-1+4-1+1223-",
   "1+293-1+116-2+498-3+1231-1+832-1+19816-2+1180-2+1-1+14-2+29000-2+1201-1+852-3+988857-"]

def graphemeBase : Trait := .ofRuns ["Grapheme_Base", "Gr_Base"]
  ["32-95+33-13+1-594+112-8+2-6+4-7+1-1+1-20+1-224+7-166+1-38+2-50+2-3+46-1+1-1+2-1+2-1+9-27+4-",
   "6+17-10+11-1+1-46+21-16+1-101+8-1+6-2+2-1+4-32+2-1+1-30+29-89+11-1+14-43+9-7+3-24+4-1+9-1+3-",
   "1+7-15+1-25+5-1+1-11+5-32+16-42+57-55+1-1+1-4+8-4+1-3+7-10+2-29+1-2+1-8+2-2+2-22+1-7+1-1+3-",
   "4+3-1+1-2+6-2+2-2+1-1+13-2+1-3+4-24+5-1+1-6+4-2+2-22+1-7+1-2+1-2+1-2+4-3+24-4+1-1+7-10+2-3+",
   "1-1+12-1+1-9+1-3+1-22+1-7+1-2+1-5+3-4+8-1+1-2+3-1+15-2+4-12+7-1+8-2+1-8+2-2+2-22+1-7+1-2+1-",
   "5+3-1+2-1+6-2+2-2+15-2+1-3+4-18+11-1+1-6+3-3+1-4+3-2+1-1+1-2+3-2+3-3+3-12+5-1+1-2+3-3+1-3+3-",
   "1+21-21+6-3+1-8+1-3+1-23+1-16+3-1+3-4+19-3+1-2+2-2+4-10+7-10+1-11+1-3+1-23+1-10+1-5+3-2+2-1+",
   "1-2+23-3+1-2+4-10+1-3+14-11+1-3+1-41+2-1+1-2+5-3+1-3+1-2+4-3+1-10+4-26+2-2+1-18+3-24+1-9+1-",
   "1+2-7+9-2+6-7+7-10+2-3+12-48+1-2+11-8+8-13+37-2+1-1+1-5+1-24+1-1+1-10+1-2+9-1+2-5+1-1+9-10+",
   "2-4+32-24+2-27+1-1+1-1+1-14+1-36+18-1+5-1+2-5+49-8+1-6+1-13+37-45+4-1+6-1+2-2+2-25+2-4+3-16+",
   "4-13+1-2+2-6+1-15+1-40+1-1+5-1+2-377+1-4+2-7+1-1+1-4+2-41+1-4+2-33+1-4+2-7+1-1+1-4+2-15+1-",
   "57+1-4+2-67+5-29+3-26+6-86+2-6+2-669+3-89+7-18+13-19+3-2+9-18+14-13+1-3+15-52+2-1+7-8+1-2+",
   "11-9+3-10+6-10+6-11+5-10+6-89+7-5+2-34+1-1+5-70+10-31+4-4+2-3+4-2+1-6+7-1+3-42+2-5+11-44+4-",
   "26+6-11+3-57+2-2+3-56+1-1+9-1+1-2+8-6+13-10+6-10+6-14+86-48+10-4+3-8+1-29+9-12+2-32+4-2+6-",
   "56+1-1+2-3+1-1+13-48+8-2+5-15+3-62+5-43+2-11+11-1+13-1+7-4+1-6+1-3+2-1+5-192+64-278+2-6+2-",
   "38+2-6+2-8+1-1+1-1+1-1+1-31+2-53+1-15+1-14+2-6+1-19+2-3+1-9+1-11+5-24+7-49+16-2+2-27+1-13+3-",
   "34+62-140+4-666+22-11+21-1812+2-377+3-2+5-45+1-1+5-1+2-56+7-2+15-23+9-7+1-7+1-7+1-7+1-7+1-7+",
   "1-7+1-7+33-94+34-26+1-89+12-214+26-58+6-16+1-86+4-101+5-43+1-94+1-86+9-48+1-29293+3-55+9-",
   "348+20-47+4-1+10-32+2-80+2-6+8-221+20-17+1-3+1-4+1-25+2-5+4-10+6-56+8-68+10-12+24-13+1-38+8-",
   "25+11-1+12-30+6-48+1-2+4-2+2-2+1-13+1-11+4-7+1-25+1-41+6-2+2-2+11-3+1-8+1-1+2-10+2-32+1-51+",
   "1-1+3-2+2-5+2-1+1-1+24-17+2-8+11-6+2-6+2-6+9-7+1-7+1-60+4-117+1-2+1-4+3-10+6-11172+12-23+4-",
   "49+8452-366+2-106+38-7+12-5+5-1+1-24+1-5+1-1+1-2+1-2+1-650+32-16+16-10+22-35+1-19+1-4+4-5+1-",
   "135+4-157+2-31+3-6+2-6+2-6+2-3+3-7+1-7+13-2+2-12+1-26+1-19+1-2+1-15+2-14+34-123+5-3+4-45+3-",
   "88+1-13+3-1+47-45+131-29+3-49+16-27+4-36+9-30+5-38+10-30+1-37+4-14+42-158+2-10+6-36+4-36+4-",
   "40+8-52+11-12+1-15+1-7+1-2+1-11+1-15+1-7+1-2+3-52+12-311+9-22+10-8+24-6+1-42+1-9+69-6+2-1+1-",
   "44+1-2+3-1+2-23+1-72+8-9+48-19+1-2+5-33+3-27+5-27+38-56+4-20+2-47+15-4+1-3+1-29+10-9+7-9+7-",
   "64+32-37+6-12+9-54+3-29+2-27+5-26+7-4+12-7+80-73+55-51+13-51+7-42+12-10+6-38+8-24+8-2+208-",
   "31+1-42+3-1+2-2+16-6+8-9+39-40+8-22+11-9+22-18+4-4+38-28+20-23+9-1+1-54+15-7+4-30+1-2+2-1+",
   "12-49+4-2+2-2+1-4+14-25+7-10+9-36+5-1+9-18+8-35+1-3+11-52+9-1+1-8+4-2+1-16+1-20+11-18+1-28+",
   "3-2+4-6+1-2+63-7+1-1+1-4+1-15+1-11+6-47+1-3+13-10+8-2+1-8+2-2+2-22+1-7+1-2+1-5+3-1+1-1+1-4+",
   "2-2+2-2+3-1+12-7+28-10+1-1+2-1+1-38+1-1+1-2+15-1+1-2+3-1+1-3+1-2+39-56+8-2+3-1+1-21+1-1+1-3+",
   "30-48+1-2+6-1+1-2+1-1+2-1+2-4+8-10+166-47+1-2+6-4+2-1+2-27+36-51+8-2+1-1+2-4+11-10+6-13+19-",
   "43+1-1+1-2+8-2+6-10+6-20+28-27+3-1+1-2+4-1+9-23+185-47+9-1+2-1+100-83+12-8+2-1+2-8+1-2+1-24+",
   "1-5+1-2+6-4+1-3+9-10+70-8+2-42+8-4+1-4+27-1+10-40+6-2+4-8+9-1+6-2+3-46+13-1+2-9+13-73+7-10+",
   "87-1+3-1+1-1+88-34+14-10+6-9+1-38+14-1+1-6+10-29+3-32+25-1+7-1+2-1+75-7+1-2+1-38+21-1+9-10+",
   "6-6+1-2+1-37+4-2+1-1+1-1+7-10+6-44+4-10+246-19+2-4+9-15+1-36+8-2+3-23+86-1+15-50+13-923+102-",
   "111+1-5+11-196+2636-99+13-1072+17-6+25-3995+5-583+6841-30+12-3+3-10+1734-569+7-31+1-10+4-81+",
   "1-10+6-30+7-1+10-48+7-15+10-10+1-7+1-21+5-19+432-58+198-91+5-25+2-25+44-75+5-56+11-13+64-4+",
   "14-5+9-7382+41-32+97-115+8701-4+1-7+1-2+1-291+15-1+29-3+2-1+14-4+8-396+2308-107+5-13+3-9+7-",
   "10+2-1+2-1+3936-253+3-436+6-23+15-17+95-116+60-246+10-39+2-60+5-3+22-2+7-30+4-61+21-66+3-1+",
   "122-20+12-20+12-87+9-25+135-85+1-71+1-2+2-1+2-2+2-4+1-12+1-1+1-7+1-65+1-4+2-8+1-7+1-28+1-4+",
   "1-5+1-1+3-7+1-340+2-292+2-562+55-4+50-8+1-14+1-7+1140-31+6-6+261-62+146-45+10-7+2-10+4-2+",
   "320-30+18-44+4-10+5-1+464-28+4-10+214-30+2-11+4-1+192-31+1-3+1-2+1-7+2-5+9-2+224-7+1-4+1-2+",
   "1-15+1-197+2-9+48-68+7-1+4-10+4-2+785-68+76-61+194-4+1-27+1-2+1-1+2-1+1-10+1-4+1-1+1-1+6-1+",
   "4-1+1-1+1-1+1-3+1-2+1-1+2-1+1-1+1-1+1-1+1-1+1-2+1-1+2-4+1-7+1-4+1-4+1-1+1-10+1-17+5-3+1-5+1-",
   "17+52-2+270-44+4-100+12-15+2-15+1-15+1-37+10-174+56-29+13-44+4-9+7-2+14-6+154-985+3-17+3-13+",
   "3-218+6-12+4-1+15-12+4-56+8-10+6-40+8-30+2-12+4-2+14-9+39-344+8-14+2-13+3-11+3-57+1-1+4-16+",
   "2-12+4-10+7-147+1-103+1029-42720+32-4382+2-5774+2-7473+15-622+2466-542+1506-4939+5-8490+",
   "904070-"]

def graphemeExtend : Trait := .ofRuns ["Grapheme_Extend", "Gr_Ext"]
  ["768-112+275-7+263-45+1-1+1-2+1-2+1-1+72-11+48-21+16-1+101-7+2-6+2-2+1-4+35-1+30-27+91-11+58-",
   "9+9-1+24-4+1-9+1-3+1-5+43-3+59-9+42-24+1-32+55-1+1-1+4-8+4-1+3-7+10-2+29-1+58-1+1-1+2-4+8-1+",
   "9-1+10-2+26-1+2-2+57-1+4-2+4-2+2-3+3-1+30-2+3-1+11-2+57-1+4-5+1-2+4-1+20-2+22-6+1-1+58-1+1-",
   "2+1-4+8-1+7-3+10-2+30-1+59-1+1-1+12-1+9-1+40-1+3-1+55-1+1-3+5-3+1-4+7-2+11-2+29-1+58-1+2-2+",
   "1-1+3-3+1-4+7-2+11-2+28-2+57-2+1-1+2-4+8-1+9-1+10-2+29-1+72-1+4-1+2-3+1-1+8-1+81-1+2-7+12-8+",
   "98-1+2-9+11-7+73-2+27-1+1-1+1-1+55-14+1-5+1-2+5-11+1-36+9-1+102-4+1-6+1-2+2-2+25-2+4-3+16-4+",
   "13-1+2-2+6-1+15-1+703-3+946-4+28-3+29-2+30-2+64-2+1-7+8-1+2-11+9-1+45-3+1-1+117-2+34-1+118-",
   "3+4-2+9-1+6-3+219-2+2-1+58-1+1-7+1-1+1-1+2-8+6-10+2-1+48-46+2-12+20-4+48-10+4-3+38-9+12-2+",
   "32-4+2-6+56-1+1-2+3-1+1-5+56-8+2-2+152-3+1-13+1-7+4-1+6-1+3-2+198-64+524-1+195-33+3070-3+",
   "141-1+96-32+554-6+105-2+30164-4+1-10+32-2+80-2+272-1+3-1+4-1+25-2+5-1+151-2+26-18+13-1+38-8+",
   "25-11+1-1+44-3+48-1+2-4+2-2+2-1+36-1+67-6+2-2+2-2+12-1+8-1+47-1+51-1+1-3+2-2+5-2+1-1+42-2+8-",
   "1+238-1+2-1+4-1+20272-1+737-16+16-16+366-2+605-1+226-1+149-5+1670-3+1-2+5-4+40-3+4-1+165-2+",
   "573-4+65-5+317-2+77-6+70-11+49-4+123-1+54-15+41-1+2-2+10-3+49-4+2-2+7-1+61-3+36-5+1-8+62-1+",
   "12-2+52-9+1-1+8-4+2-1+95-3+2-4+6-1+2-1+157-1+3-8+21-2+57-2+1-1+1-1+12-1+9-1+14-7+3-5+67-1+2-",
   "6+1-1+2-1+1-3+4-3+1-1+14-2+85-8+2-3+1-1+23-1+81-1+2-6+1-1+2-1+1-2+1-2+235-1+2-4+6-2+1-2+27-",
   "2+85-8+2-1+1-2+106-1+1-1+2-8+101-1+1-1+2-4+1-5+259-9+1-2+245-1+10-4+4-1+144-4+2-2+4-1+32-10+",
   "40-6+2-4+8-1+9-6+2-3+46-13+1-2+198-1+1-3+1-1+201-7+1-6+1-1+82-22+2-7+1-2+1-2+122-6+3-1+1-2+",
   "1-7+1-1+72-2+3-1+1-1+347-2+11-2+52-5+5-3+23-1+5349-1+6-15+11464-12+3-3+2496-5+59-7+1048-1+",
   "63-4+81-1+11-2+19627-2+4705-46+2-23+542-5+3-6+8-8+2-7+30-4+148-3+1979-55+4-50+8-1+14-1+22-5+",
   "1-15+1360-7+1-17+2-7+1-2+1-5+100-1+160-7+375-1+61-4+508-4+254-2+243-1+2-1+7-2+5-1+474-7+109-",
   "7+792277-96+128-240+196112-"]

def hexDigit : Trait := .ofRuns ["Hex_Digit", "Hex"]
  ["48-10+7-6+26-6+65193-10+7-6+26-6+1048761-"]

def idsBinaryOperator : Trait := .ofRuns ["IDS_Binary_Operator", "IDSB"]
  ["12272-2+2-10+497-1+1101328-"]

def idsTrinaryOperator : Trait := .ofRuns ["IDS_Trinary_Operator", "IDST"]
  ["12274-2+1101836-"]

def idContinue : Trait := .ofRuns ["ID_Continue", "IDC"]
  ["48-10+7-26+4-1+1-26+47-1+10-1+1-1+2-1+5-23+1-31+1-458+4-12+14-5+7-1+1-1+17-117+1-2+2-4+1-1+",
   "6-5+1-1+1-20+1-83+1-139+1-5+2-166+1-38+2-1+6-41+8-45+1-1+1-2+1-2+1-1+8-27+4-4+29-11+5-74+4-",
   "102+1-8+2-10+1-19+2-1+16-59+2-101+14-54+4-1+2-1+2-46+18-28+4-11+5-24+1-7+7-75+1-129+2-10+1-",
   "19+1-8+2-2+2-22+1-7+1-1+3-4+2-9+2-2+2-4+8-1+4-2+1-5+2-12+10-1+1-1+2-3+1-6+4-2+2-22+1-7+1-2+",
   "1-2+1-2+2-1+1-5+4-2+2-3+3-1+7-4+1-1+7-16+11-3+1-9+1-3+1-22+1-7+1-2+1-5+2-10+1-3+1-3+2-1+15-",
   "4+2-10+9-7+1-3+1-8+2-2+2-22+1-7+1-2+1-5+2-9+2-2+2-3+7-3+4-2+1-5+2-10+1-1+16-2+1-6+3-3+1-4+3-",
   "2+1-1+1-2+3-2+3-3+3-12+4-5+3-3+1-4+2-1+6-1+14-10+16-13+1-3+1-23+1-16+2-9+1-3+1-4+7-2+1-3+1-",
   "2+2-4+2-10+16-4+1-8+1-3+1-23+1-10+1-5+2-9+1-3+1-4+7-2+5-3+1-4+2-10+1-3+12-13+1-3+1-51+1-3+1-",
   "5+5-4+7-5+2-10+10-6+1-3+1-18+3-24+1-9+1-1+2-7+3-1+4-6+1-1+1-8+6-10+2-2+13-58+5-15+1-10+39-2+",
   "1-1+1-5+1-24+1-1+1-23+2-5+1-1+1-7+1-10+2-4+32-1+23-2+6-10+11-1+1-1+1-1+4-10+1-36+4-20+1-18+",
   "1-36+9-1+57-74+6-78+2-38+1-1+5-1+2-43+1-333+1-4+2-7+1-1+1-4+2-41+1-4+2-33+1-4+2-7+1-1+1-4+2-",
   "15+1-57+1-4+2-67+2-3+9-9+14-16+16-86+2-6+3-620+2-17+1-26+5-75+3-11+7-22+9-22+11-20+12-13+1-",
   "3+1-2+12-84+3-1+4-2+2-10+33-3+1-11+6-89+7-43+5-70+10-31+1-12+4-12+10-40+2-5+11-44+4-26+6-11+",
   "37-28+4-63+1-29+2-11+6-10+13-1+8-14+1-31+2-12+20-77+3-10+17-9+12-116+12-56+8-10+3-49+2-11+5-",
   "43+2-3+16-3+1-39+5-534+2-6+2-38+2-6+2-8+1-1+1-1+1-1+1-31+2-53+1-7+1-1+3-3+1-7+3-4+2-6+4-13+",
   "5-3+1-7+15-2+49-2+19-1+28-1+13-1+16-13+51-13+4-1+3-12+17-1+4-1+2-10+1-1+2-6+6-1+1-1+1-1+1-",
   "16+2-4+5-5+4-1+17-41+2679-229+6-9+12-38+1-1+5-1+2-56+7-1+15-24+9-7+1-7+1-7+1-7+1-7+1-7+1-7+",
   "1-7+1-32+517-3+25-15+1-5+2-5+4-86+2-7+1-95+5-43+1-94+17-32+48-16+512-6592+64-22157+67-46+2-",
   "269+3-28+20-48+4-10+1-115+37-9+2-103+2-82+20-55+4-1+19-52+12-70+10-10+6-24+3-1+1-49+2-36+12-",
   "29+3-65+14-11+6-31+1-55+9-14+2-10+6-23+3-73+24-3+2-16+2-5+10-6+2-6+2-6+9-7+1-7+1-43+1-14+6-",
   "123+1-2+2-10+6-11172+12-23+4-49+8452-366+2-106+38-7+12-5+5-12+1-13+1-5+1-1+1-2+1-2+1-108+33-",
   "363+18-64+2-54+40-12+4-16+16-16+3-2+24-3+32-5+1-135+19-10+7-26+4-1+1-26+10-90+3-6+2-6+2-6+2-",
   "3+35-12+1-26+1-19+1-2+1-15+2-14+34-123+69-53+136-1+130-29+3-49+15-1+31-32+13-30+5-43+5-30+2-",
   "36+4-8+1-5+42-158+2-10+6-36+4-36+4-40+8-52+12-11+1-15+1-7+1-2+1-11+1-15+1-7+1-2+3-52+12-311+",
   "9-22+10-8+24-6+1-42+1-9+69-6+2-1+1-44+1-2+3-1+2-23+10-23+9-31+65-19+1-2+10-22+10-26+6-26+38-",
   "56+6-2+64-4+1-2+5-8+1-3+1-29+2-3+4-1+32-29+3-29+35-8+1-30+25-54+10-22+10-19+13-18+110-73+55-",
   "51+13-51+13-40+8-10+6-38+3-5+1-23+250-42+1-2+3-2+16-6+50-35+10-1+8-33+31-22+42-21+27-23+9-",
   "71+31-16+9-60+7-1+13-25+7-10+6-53+1-10+4-4+8-36+2-1+9-69+4-4+1-13+1-1+35-18+1-37+6-4+62-7+1-",
   "1+1-4+1-15+1-10+7-59+5-10+6-4+1-8+2-2+2-22+1-7+1-2+1-5+1-10+2-2+2-3+2-1+6-1+5-7+2-7+3-5+11-",
   "10+1-1+2-1+1-38+1-10+1-1+2-1+1-4+1-8+13-2+29-75+5-10+4-4+30-70+1-1+8-10+166-54+2-9+23-6+34-",
   "65+3-1+11-10+38-57+7-10+6-20+28-27+2-15+4-10+6-7+185-59+101-74+21-8+2-1+2-8+1-2+1-30+1-2+2-",
   "9+12-10+70-8+2-46+2-8+1-2+27-63+8-1+8-74+3-1+18-73+103-8+88-33+15-10+6-9+1-45+1-9+15-10+24-",
   "30+2-22+1-14+73-7+1-2+1-44+3-1+1-2+1-9+8-10+6-6+1-2+1-37+1-2+1-6+7-10+6-44+4-10+246-23+9-17+",
   "1-41+3-5+13-11+85-1+79-922+102-111+17-196+2636-97+15-1072+16-22+10-3995+5-583+6841-58+1734-",
   "569+7-31+1-10+6-79+1-10+6-30+2-5+11-55+9-4+12-10+9-21+5-19+432-45+3-10+198-64+32-25+2-25+44-",
   "75+4-57+7-17+64-2+1-2+11-7+9-7382+41-32+97-115+8701-4+1-7+1-2+1-291+15-1+29-3+2-1+14-4+8-",
   "396+2308-107+5-13+3-9+7-10+3-2+4177-10+518-46+2-23+542-5+3-6+8-8+2-7+30-4+148-3+443-85+1-71+",
   "1-2+2-1+2-2+2-4+1-12+1-1+1-7+1-65+1-4+2-8+1-7+1-28+1-4+1-5+1-1+3-7+1-340+2-25+1-25+1-31+1-",
   "25+1-31+1-25+1-31+1-25+1-31+1-25+1-8+2-50+512-55+4-50+8-1+14-1+22-5+1-15+1104-31+6-6+213-7+",
   "1-17+2-7+1-2+1-5+5-62+33-1+112-45+3-14+2-10+4-1+321-31+17-58+470-42+214-43+197-31+1-22+8-2+",
   "224-7+1-4+1-2+1-15+1-197+11-7+41-76+4-10+1190-4+1-27+1-2+1-1+2-1+1-10+1-4+1-1+1-1+6-1+4-1+1-",
   "1+1-1+1-3+1-2+1-1+2-1+1-1+1-1+1-1+1-1+1-2+1-1+2-4+1-7+1-4+1-4+1-1+1-10+1-17+5-3+1-5+1-17+",
   "3380-10+1030-42720+32-4382+2-5774+2-7473+15-622+2466-542+1506-4939+5-8490+707718-240+196112-"]

def idStart : Trait := .ofRuns ["ID_Start", "IDS"]
  ["65-26+6-26+47-1+10-1+4-1+5-23+1-31+1-458+4-12+14-5+7-1+1-1+129-5+1-2+2-4+1-1+6-1+1-3+1-1+1-",
   "20+1-83+1-139+8-166+1-38+2-1+6-41+71-27+4-4+45-43+35-2+1-99+1-1+15-2+7-2+10-3+2-1+16-1+1-30+",
   "29-89+11-1+24-33+9-2+4-1+5-22+4-1+9-1+3-1+23-25+7-11+5-24+1-7+16-42+58-54+3-1+18-1+7-10+15-",
   "16+4-8+2-2+2-22+1-7+1-1+3-4+3-1+16-1+13-2+1-3+14-2+10-1+8-6+4-2+2-22+1-7+1-2+1-2+1-2+31-4+1-",
   "1+19-3+16-9+1-3+1-22+1-7+1-2+1-5+3-1+18-1+15-2+23-1+11-8+2-2+2-22+1-7+1-2+1-5+3-1+30-2+1-3+",
   "15-1+17-1+1-6+3-3+1-4+3-2+1-1+1-2+3-2+3-3+3-12+22-1+52-8+1-3+1-23+1-16+3-1+26-3+1-2+2-2+30-",
   "1+4-8+1-3+1-23+1-10+1-5+3-1+30-3+1-2+15-2+17-9+1-3+1-41+2-1+16-1+5-3+8-3+24-6+5-18+3-24+1-9+",
   "1-1+2-7+58-48+1-2+12-7+58-2+1-1+1-5+1-24+1-1+1-10+1-2+9-1+2-5+1-1+21-4+32-1+63-8+1-36+27-5+",
   "115-43+20-1+16-6+4-4+3-1+3-2+7-3+4-13+12-1+17-38+1-1+5-1+2-43+1-333+1-4+2-7+1-1+1-4+2-41+1-",
   "4+2-33+1-4+2-7+1-1+1-4+2-15+1-57+1-4+2-67+37-16+16-86+2-6+3-620+2-17+1-26+5-75+3-11+7-18+13-",
   "19+14-18+14-13+1-3+15-52+35-1+4-1+67-89+7-41+1-1+5-70+10-31+49-30+2-5+11-44+4-26+54-23+9-53+",
   "82-1+93-47+17-8+54-30+13-2+10-44+26-36+41-3+10-36+2-11+5-43+2-3+41-4+1-6+1-2+3-1+5-192+64-",
   "278+2-6+2-38+2-6+2-8+1-1+1-1+1-1+1-31+2-53+1-7+1-1+3-3+1-7+3-4+2-6+4-13+5-3+1-7+116-1+13-1+",
   "16-13+101-1+4-1+2-10+1-1+2-6+6-1+1-1+1-1+1-16+2-4+5-5+4-1+17-41+2679-229+6-4+3-2+12-38+1-1+",
   "5-1+2-56+7-1+16-23+9-7+1-7+1-7+1-7+1-7+1-7+1-7+1-7+550-3+25-9+7-5+2-5+4-86+4-5+1-90+1-4+5-",
   "43+1-94+17-32+48-16+512-6592+64-22157+67-46+2-269+3-16+10-2+20-47+16-31+2-80+39-9+2-103+2-",
   "82+20-17+1-3+1-4+1-23+29-52+14-50+62-6+3-1+1-2+11-28+10-23+25-29+7-47+28-1+16-5+1-10+10-5+1-",
   "41+23-3+1-8+20-23+3-1+3-50+1-1+3-2+2-5+2-1+1-1+24-3+2-11+7-3+12-6+2-6+2-6+9-7+1-7+1-43+1-14+",
   "6-115+29-11172+12-23+4-49+8452-366+2-106+38-7+12-5+5-1+1-10+1-13+1-5+1-1+1-2+1-2+1-108+33-",
   "363+18-64+2-54+40-12+116-5+1-135+36-26+6-26+11-89+3-6+2-6+2-6+2-3+35-12+1-26+1-19+1-2+1-15+",
   "2-14+34-123+69-53+267-29+3-49+47-32+13-30+5-38+10-30+2-36+4-8+1-5+42-158+18-36+4-36+4-40+8-",
   "52+12-11+1-15+1-7+1-2+1-11+1-15+1-7+1-2+3-52+12-311+9-22+10-8+24-6+1-42+1-9+69-6+2-1+1-44+1-",
   "2+3-1+2-23+10-23+9-31+65-19+1-2+10-22+10-26+6-26+38-56+6-2+64-1+15-4+1-3+1-29+42-29+3-29+35-",
   "8+1-28+27-54+10-22+10-19+13-18+110-73+55-51+13-51+13-36+38-28+9-23+250-42+6-2+16-6+56-29+10-",
   "1+8-22+42-18+46-21+27-23+12-53+57-2+2-1+13-45+32-25+26-36+29-1+2-1+8-35+3-1+12-48+14-4+21-1+",
   "1-1+35-18+1-25+19-2+63-7+1-1+1-4+1-15+1-10+7-47+38-8+2-2+2-22+1-7+1-2+1-5+3-1+18-1+12-5+30-",
   "10+1-1+2-1+1-38+1-1+25-1+1-1+44-53+18-4+20-3+30-48+20-2+1-1+184-47+41-4+36-48+20-1+59-43+13-",
   "1+71-27+37-7+185-44+116-64+31-8+2-1+2-8+1-2+1-24+15-1+1-1+94-8+2-39+16-1+1-1+28-1+10-40+7-1+",
   "21-1+11-46+19-1+18-73+199-33+31-9+1-37+17-1+49-30+112-7+1-2+1-38+21-1+25-6+1-2+1-32+14-1+23-",
   "44+260-19+15-1+1-13+1-34+124-1+79-922+102-111+17-196+2636-97+15-1072+17-6+25-3995+5-583+",
   "6841-30+1762-569+7-31+17-79+17-30+18-48+16-4+31-21+5-19+432-45+211-64+32-25+2-25+44-75+5-1+",
   "66-13+64-2+1-1+14-5+9-7382+41-32+97-115+8701-4+1-7+1-2+1-291+15-1+29-3+2-1+14-4+8-396+2308-",
   "107+5-13+3-9+7-10+5990-85+1-71+1-2+2-1+2-2+2-4+1-12+1-1+1-7+1-65+1-4+2-8+1-7+1-28+1-4+1-5+1-",
   "1+3-7+1-340+2-25+1-25+1-31+1-25+1-31+1-25+1-31+1-25+1-31+1-25+1-8+1844-31+6-6+261-62+146-45+",
   "10-7+16-1+321-30+18-44+484-28+228-30+2-1+207-31+1-3+1-2+1-7+2-5+9-2+224-7+1-4+1-2+1-15+1-",
   "197+59-68+7-1+1204-4+1-27+1-2+1-1+2-1+1-10+1-4+1-1+1-1+6-1+4-1+1-1+1-1+1-3+1-2+1-1+2-1+1-1+",
   "1-1+1-1+1-1+1-2+1-1+2-4+1-7+1-4+1-4+1-1+1-10+1-17+5-3+1-5+1-17+4420-42720+32-4382+2-5774+2-",
   "7473+15-622+2466-542+1506-4939+5-8490+904070-"]

def ideographic : Trait := .ofRuns ["Ideographic", "Ideo"]
  ["12294-2+25-9+14-3+965-6592+64-20992+22784-366+2-106+29962-1+13-5+9-7382+41-32+97-115+9085-",
   "396+19716-42720+32-4382+2-5774+2-7473+15-622+2466-542+1506-4939+5-8490+904070-"]

def joinControl : Trait := .ofRuns ["Join_Control", "Join_C"]
  ["8204-2+1105906-"]

def logicalOrderException : Trait := .ofRuns ["Logical_Order_Exception", "LOE"]
  ["3648-5+123-5+2800-3+2-1+37114-2+2-1+1-2+1070403-"]

def lowercase : Trait := .ofRuns ["Lowercase", "Lower"]
  ["97-26+47-1+10-1+4-1+36-24+1-8+1-1+1-1+1-1+1-1+1-1+1-1+1-1+1-1+1-1+1-1+1-1+1-1+1-1+1-1+1-1+1-",
   "1+1-1+1-1+1-1+1-1+1-1+1-1+1-1+1-1+1-1+1-1+1-1+1-2+1-1+1-1+1-1+1-1+1-1+1-1+1-1+1-2+1-1+1-1+1-",
   "1+1-1+1-1+1-1+1-1+1-1+1-1+1-1+1-1+1-1+1-1+1-1+1-1+1-1+1-1+1-1+1-1+1-1+1-1+1-1+1-1+2-1+1-1+1-",
   "3+2-1+1-1+2-1+3-2+4-1+2-1+3-3+2-1+2-1+1-1+1-1+2-1+1-2+1-1+2-1+3-1+1-1+2-2+2-3+6-1+2-1+2-1+1-",
   "1+1-1+1-1+1-1+1-1+1-1+1-1+1-2+1-1+1-1+1-1+1-1+1-1+1-1+1-1+1-1+1-2+2-1+1-1+3-1+1-1+1-1+1-1+1-",
   "1+1-1+1-1+1-1+1-1+1-1+1-1+1-1+1-1+1-1+1-1+1-1+1-1+1-1+1-1+1-1+1-1+1-1+1-1+1-1+1-1+1-1+1-1+1-",
   "1+1-1+1-7+2-1+2-2+1-1+4-1+1-1+1-1+1-1+1-69+2-35+7-2+30-5+96-1+43-1+1-1+3-1+2-4+18-1+27-35+1-",
   "2+3-3+1-1+1-1+1-1+1-1+1-1+1-1+1-1+1-1+1-1+1-1+1-1+1-5+1-1+2-1+2-2+51-48+1-1+1-1+1-1+1-1+1-1+",
   "1-1+1-1+1-1+1-1+1-1+1-1+1-1+1-1+1-1+1-1+1-1+1-1+9-1+1-1+1-1+1-1+1-1+1-1+1-1+1-1+1-1+1-1+1-1+",
   "1-1+1-1+1-1+1-1+1-1+1-1+1-1+1-1+1-1+1-1+1-1+1-1+1-1+1-1+1-1+1-1+2-1+1-1+1-1+1-1+1-1+1-1+1-2+",
   "1-1+1-1+1-1+1-1+1-1+1-1+1-1+1-1+1-1+1-1+1-1+1-1+1-1+1-1+1-1+1-1+1-1+1-1+1-1+1-1+1-1+1-1+1-1+",
   "1-1+1-1+1-1+1-1+1-1+1-1+1-1+1-1+1-1+1-1+1-1+1-1+1-1+1-1+1-1+1-1+1-1+1-1+1-1+1-1+1-1+1-1+1-1+",
   "1-1+1-1+48-41+2887-43+1-4+760-6+2178-9+1-1+117-192+65-1+1-1+1-1+1-1+1-1+1-1+1-1+1-1+1-1+1-1+",
   "1-1+1-1+1-1+1-1+1-1+1-1+1-1+1-1+1-1+1-1+1-1+1-1+1-1+1-1+1-1+1-1+1-1+1-1+1-1+1-1+1-1+1-1+1-1+",
   "1-1+1-1+1-1+1-1+1-1+1-1+1-1+1-1+1-1+1-1+1-1+1-1+1-1+1-1+1-1+1-1+1-1+1-1+1-1+1-1+1-1+1-1+1-1+",
   "1-1+1-1+1-1+1-1+1-1+1-1+1-1+1-1+1-1+1-1+1-1+1-1+1-1+1-1+1-1+1-1+1-1+1-1+1-9+1-1+1-1+1-1+1-1+",
   "1-1+1-1+1-1+1-1+1-1+1-1+1-1+1-1+1-1+1-1+1-1+1-1+1-1+1-1+1-1+1-1+1-1+1-1+1-1+1-1+1-1+1-1+1-1+",
   "1-1+1-1+1-1+1-1+1-1+1-1+1-1+1-1+1-1+1-1+1-1+1-1+1-1+1-1+1-1+1-1+1-1+1-1+1-1+1-1+1-1+1-9+8-6+",
   "10-8+8-8+8-6+10-8+8-8+8-14+2-8+8-8+8-8+8-5+1-2+6-1+3-3+1-2+8-4+2-2+8-8+10-3+1-2+121-1+13-1+",
   "16-13+109-1+3-2+3-1+27-1+4-1+4-1+2-2+8-4+4-1+33-16+4-1+843-26+1862-48+1-1+3-2+1-1+1-1+1-1+4-",
   "1+1-2+1-8+3-1+1-1+1-1+1-1+1-1+1-1+1-1+1-1+1-1+1-1+1-1+1-1+1-1+1-1+1-1+1-1+1-1+1-1+1-1+1-1+1-",
   "1+1-1+1-1+1-1+1-1+1-1+1-1+1-1+1-1+1-1+1-1+1-1+1-1+1-1+1-1+1-1+1-1+1-1+1-1+1-1+1-1+1-1+1-1+1-",
   "1+1-1+1-1+1-1+1-1+1-1+1-2+7-1+1-1+4-1+12-38+1-1+5-1+30995-1+1-1+1-1+1-1+1-1+1-1+1-1+1-1+1-1+",
   "1-1+1-1+1-1+1-1+1-1+1-1+1-1+1-1+1-1+1-1+1-1+1-1+1-1+1-1+19-1+1-1+1-1+1-1+1-1+1-1+1-1+1-1+1-",
   "1+1-1+1-1+1-1+1-1+1-3+133-1+1-1+1-1+1-1+1-1+1-1+1-3+1-1+1-1+1-1+1-1+1-1+1-1+1-1+1-1+1-1+1-1+",
   "1-1+1-1+1-1+1-1+1-1+1-1+1-1+1-1+1-1+1-1+1-1+1-1+1-1+1-1+1-1+1-1+1-1+1-1+1-1+1-1+1-10+1-1+1-",
   "1+2-1+1-1+1-1+1-1+1-1+4-1+1-1+2-1+1-3+1-1+1-1+1-1+1-1+1-1+1-1+1-1+1-1+1-1+1-1+5-1+5-1+1-1+1-",
   "1+1-1+1-1+1-1+1-1+1-1+4-1+1-1+2-1+1-1+1-1+1-1+1-1+1-1+1-1+1-1+21-4+1-1+1-3+821-43+1-14+6-80+",
   "20288-7+12-5+1065-26+1229-40+136-36+155-11+1-15+1-7+1-2+451-1+2-3+1-42+1-9+1285-51+125-22+",
   "2874-32+21888-32+59-25+25926-26+26-7+1-18+26-26+26-4+1-1+1-7+1-11+26-26+26-26+26-26+26-26+",
   "26-26+26-26+26-26+26-26+26-28+28-25+1-6+26-25+1-6+26-25+1-6+26-25+1-6+26-25+1-6+1-1+1844-10+",
   "1-20+6-6+261-62+2228-34+988860-"]

def math : Trait := .ofRuns ["Math"]
  ["43-1+16-3+31-1+29-1+1-1+45-1+4-1+37-1+31-1+728-3+2-1+26-2+2-3+527-3+6669-1+27-3+11-1+3-1+13-",
   "1+14-4+21-5+11-5+65-13+4-1+3-2+4-5+18-1+4-1+2-10+1-1+2-6+6-1+3-2+2-2+1-3+1-6+3-14+1-1+68-24+",
   "1-6+1-2+4-2+4-32+1-1+6-2+14-268+8-4+20-2+90-1+30-27+1-1+24-1+11-7+445-2+12-10+4-6+4-2+2-2+3-",
   "5+14-1+1-1+2-6+11-8+5-2+57-1+1-1+29-4+9-3+336-64+256-512+48-21+2-6+53212-1+823-6+1-1+162-1+",
   "16-3+29-1+1-1+29-1+1-1+131-1+6-4+3489-2+49504-1+1295-85+1-71+1-2+2-1+2-2+2-4+1-12+1-1+1-7+1-",
   "65+1-4+2-8+1-7+1-28+1-4+1-5+1-1+3-7+1-340+2-292+2-50+5632-4+1-27+1-2+1-1+2-1+1-10+1-4+1-1+1-",
   "1+6-1+4-1+1-1+1-1+1-3+1-2+1-1+2-1+1-1+1-1+1-1+1-1+1-2+1-1+2-4+1-7+1-4+1-4+1-1+1-10+1-17+5-3+",
   "1-5+1-17+52-2+2526-9+984871-"]

def noncharacterCodePoint : Trait := .ofRuns ["Noncharacter_Code_Point", "NChar"]
  ["64976-32+526-2+65534-2+65534-2+65534-2+65534-2+65534-2+65534-2+65534-2+65534-2+65534-2+",
   "65534-2+65534-2+65534-2+65534-2+65534-2+65534-2+65534-2+"]

def patternSyntax : Trait := .ofRuns ["Pattern_Syntax", "Pat_Syn"]
  ["33-15+10-7+26-4+1-1+26-4+34-7+1-1+1-2+1-1+1-2+4-1+4-1+3-1+23-1+31-1+7960-24+8-15+2-19+1-10+",
   "305-720+160-630+30-1132+512-128+385-3+4-25+15-1+52493-2+261-2+1049017-"]

def patternWhiteSpace : Trait := .ofRuns ["Pattern_White_Space", "Pat_WS"]
  ["9-5+18-1+100-1+8072-2+24-2+1105878-"]

def quotationMark : Trait := .ofRuns ["Quotation_Mark", "QMark"]
  ["34-1+4-1+131-1+15-1+8028-8+25-2+3591-1+457-4+13-3+52769-4+189-1+4-1+90-2+1048732-"]

def radical : Trait := .ofRuns ["Radical"]
  ["11904-26+1-89+12-214+1101866-"]

def regionalIndicator : Trait := .ofRuns ["Regional_Indicator", "RI"]
  ["127462-26+986624-"]

def sentenceTerminal : Trait := .ofRuns ["Sentence_Terminal", "STerm"]
  ["33-1+12-1+16-1+1353-1+147-3+180-1+43-3+246-1+61-1+1-1+3-2+293-2+1764-2+790-1+4-2+773-1+198-",
   "2+157-2+45-1+5-1+314-2+354-4+162-2+10-2+2-2+29-3+187-2+65-2+932-1+23-2+9-3+3247-3+306-1+13-",
   "1+22-2+429-1+29948-1+270-2+227-1+3-1+382-2+86-2+95-1+152-2+147-3+144-2+249-1+21030-1+2-2+59-",
   "1+3-2+169-1+12-1+16-1+65-1+2804-2+1277-5+44-4+189-2+117-4+127-3+129-2+6-1+16-2+88-2+1-2+108-",
   "1+298-2+117-2+373-2+5-15+105-2+249-3+517-1+1-1+251-2+87-2+420-2+692-2+74-2+19241-2+133-1+65-",
   "2+11-1+553-2+296-1+19974-1+7656-1+992631-"]

def softDotted : Trait := .ofRuns ["Soft_Dotted", "SD"]
  ["105-2+196-1+281-1+30-1+52-1+20-1+320-1+98-1+1-1+6409-1+51-1+13-1+3-1+132-1+157-1+421-1+214-",
   "2+2866-1+108453-2+50-2+50-2+50-2+50-2+50-2+50-2+50-2+50-2+50-2+50-2+50-2+50-2+2182-1+305-2+",
   "26-1+991127-"]

def terminalPunctuation : Trait := .ofRuns ["Terminal_Punctuation", "Term"]
  ["33-1+10-1+1-1+11-2+3-1+830-1+8-1+513-1+57-1+72-1+14-1+1-3+180-1+43-11+1-1+235-2+54-6+1-8+31-",
   "1+261-2+1268-2+172-1+4-6+311-2+789-8+773-1+124-3+71-2+157-3+3-1+39-4+2-2+314-2+354-4+162-2+",
   "10-2+1-3+29-3+187-5+62-2+932-1+23-2+9-3+3247-3+306-1+13-1+4-1+10-1+1-2+3-2+428-2+29947-2+",
   "269-3+227-5+382-2+86-2+95-1+151-3+147-3+127-1+16-2+249-1+21030-1+2-2+57-3+1-4+169-1+10-1+1-",
   "1+11-2+3-1+65-1+2-1+1082-1+48-1+1158-1+199-1+310-2+152-6+68-6+89-4+952-5+44-4+189-7+112-4+",
   "127-3+129-2+6-1+16-2+88-5+108-1+298-2+117-3+12-2+358-4+3-15+105-2+249-3+517-1+1-1+251-2+87-",
   "2+4-2+414-3+45-1+645-2+74-2+1323-5+17913-2+133-1+65-3+10-1+553-2+295-2+19974-1+7655-4+",
   "992629-"]

def unifiedIdeograph : Trait := .ofRuns ["Unified_Ideograph", "UIdeo"]
  ["13312-6592+64-20992+23054-2+1-1+1-2+10-1+1-1+1-2+2-3+67030-42720+32-4382+2-5774+2-7473+15-",
   "622+4514-4939+5-8490+904070-"]

def uppercase : Trait := .ofRuns ["Uppercase", "Upper"]
  ["65-26+101-23+1-7+33-1+1-1+1-1+1-1+1-1+1-1+1-1+1-1+1-1+1-1+1-1+1-1+1-1+1-1+1-1+1-1+1-1+1-1+1-",
   "1+1-1+1-1+1-1+1-1+1-1+1-1+1-1+1-1+1-1+2-1+1-1+1-1+1-1+1-1+1-1+1-1+1-1+2-1+1-1+1-1+1-1+1-1+1-",
   "1+1-1+1-1+1-1+1-1+1-1+1-1+1-1+1-1+1-1+1-1+1-1+1-1+1-1+1-1+1-1+1-1+1-1+1-2+1-1+1-1+3-2+1-1+1-",
   "2+1-3+2-4+1-2+1-3+3-2+1-2+1-1+1-1+1-2+1-1+2-1+1-2+1-3+1-1+1-2+3-1+7-1+2-1+2-1+2-1+1-1+1-1+1-",
   "1+1-1+1-1+1-1+1-1+2-1+1-1+1-1+1-1+1-1+1-1+1-1+1-1+1-1+2-1+2-1+1-3+1-1+1-1+1-1+1-1+1-1+1-1+1-",
   "1+1-1+1-1+1-1+1-1+1-1+1-1+1-1+1-1+1-1+1-1+1-1+1-1+1-1+1-1+1-1+1-1+1-1+1-1+1-1+1-1+1-1+1-1+7-",
   "2+1-2+2-1+1-4+1-1+1-1+1-1+1-1+289-1+1-1+3-1+8-1+6-1+1-3+1-1+1-2+1-17+1-9+35-1+2-3+3-1+1-1+1-",
   "1+1-1+1-1+1-1+1-1+1-1+1-1+1-1+1-1+1-1+5-1+2-1+1-2+2-51+48-1+1-1+1-1+1-1+1-1+1-1+1-1+1-1+1-1+",
   "1-1+1-1+1-1+1-1+1-1+1-1+1-1+1-1+9-1+1-1+1-1+1-1+1-1+1-1+1-1+1-1+1-1+1-1+1-1+1-1+1-1+1-1+1-1+",
   "1-1+1-1+1-1+1-1+1-1+1-1+1-1+1-1+1-1+1-1+1-1+1-1+1-2+1-1+1-1+1-1+1-1+1-1+1-1+2-1+1-1+1-1+1-1+",
   "1-1+1-1+1-1+1-1+1-1+1-1+1-1+1-1+1-1+1-1+1-1+1-1+1-1+1-1+1-1+1-1+1-1+1-1+1-1+1-1+1-1+1-1+1-1+",
   "1-1+1-1+1-1+1-1+1-1+1-1+1-1+1-1+1-1+1-1+1-1+1-1+1-1+1-1+1-1+1-1+1-1+1-1+1-1+1-1+1-1+2-38+",
   "2889-38+1-1+5-1+722-86+2195-1+6-43+2-3+320-1+1-1+1-1+1-1+1-1+1-1+1-1+1-1+1-1+1-1+1-1+1-1+1-",
   "1+1-1+1-1+1-1+1-1+1-1+1-1+1-1+1-1+1-1+1-1+1-1+1-1+1-1+1-1+1-1+1-1+1-1+1-1+1-1+1-1+1-1+1-1+1-",
   "1+1-1+1-1+1-1+1-1+1-1+1-1+1-1+1-1+1-1+1-1+1-1+1-1+1-1+1-1+1-1+1-1+1-1+1-1+1-1+1-1+1-1+1-1+1-",
   "1+1-1+1-1+1-1+1-1+1-1+1-1+1-1+1-1+1-1+1-1+1-1+1-1+1-1+1-1+1-1+1-1+9-1+1-1+1-1+1-1+1-1+1-1+1-",
   "1+1-1+1-1+1-1+1-1+1-1+1-1+1-1+1-1+1-1+1-1+1-1+1-1+1-1+1-1+1-1+1-1+1-1+1-1+1-1+1-1+1-1+1-1+1-",
   "1+1-1+1-1+1-1+1-1+1-1+1-1+1-1+1-1+1-1+1-1+1-1+1-1+1-1+1-1+1-1+1-1+1-1+1-1+1-1+9-8+8-6+10-8+",
   "8-8+8-6+11-1+1-1+1-1+1-1+8-8+72-4+12-4+12-4+12-5+11-4+262-1+4-1+3-3+2-3+2-1+3-5+6-1+1-1+1-1+",
   "1-4+2-4+10-2+5-1+26-16+19-1+818-26+1840-48+48-1+1-3+2-1+1-1+1-1+1-4+1-1+2-1+8-3+1-1+1-1+1-1+",
   "1-1+1-1+1-1+1-1+1-1+1-1+1-1+1-1+1-1+1-1+1-1+1-1+1-1+1-1+1-1+1-1+1-1+1-1+1-1+1-1+1-1+1-1+1-1+",
   "1-1+1-1+1-1+1-1+1-1+1-1+1-1+1-1+1-1+1-1+1-1+1-1+1-1+1-1+1-1+1-1+1-1+1-1+1-1+1-1+1-1+1-1+1-1+",
   "8-1+1-1+4-1+31053-1+1-1+1-1+1-1+1-1+1-1+1-1+1-1+1-1+1-1+1-1+1-1+1-1+1-1+1-1+1-1+1-1+1-1+1-1+",
   "1-1+1-1+1-1+1-1+19-1+1-1+1-1+1-1+1-1+1-1+1-1+1-1+1-1+1-1+1-1+1-1+1-1+1-1+135-1+1-1+1-1+1-1+",
   "1-1+1-1+1-1+3-1+1-1+1-1+1-1+1-1+1-1+1-1+1-1+1-1+1-1+1-1+1-1+1-1+1-1+1-1+1-1+1-1+1-1+1-1+1-1+",
   "1-1+1-1+1-1+1-1+1-1+1-1+1-1+1-1+1-1+1-1+1-1+10-1+1-1+1-2+1-1+1-1+1-1+1-1+4-1+1-1+2-1+1-1+3-",
   "1+1-1+1-1+1-1+1-1+1-1+1-1+1-1+1-1+1-1+1-5+1-5+1-1+1-1+1-1+1-1+1-1+1-1+1-1+1-4+1-1+1-2+1-1+1-",
   "1+1-1+1-1+1-1+1-1+1-1+1-1+24-1+22315-26+1221-40+136-36+156-11+1-15+1-7+1-2+1770-51+157-22+",
   "2874-32+21888-32+64-25+25927-26+26-26+26-26+26-1+1-2+2-1+2-2+2-4+1-8+26-26+26-2+1-4+2-8+1-7+",
   "27-2+1-4+1-5+1-1+3-7+27-26+26-26+26-26+26-26+26-26+26-26+30-25+33-25+33-25+33-25+33-25+33-1+",
   "4405-34+2062-26+6-26+6-26+986742-"]

def variationSelector : Trait := .ofRuns ["Variation_Selector", "VS"]
  ["6155-3+1-1+58864-16+852720-240+196112-"]

def whiteSpace : Trait := ⟨["White_Space", "WSpace", "space"], isBlank⟩

def xidContinue : Trait := .ofRuns ["XID_Continue", "XIDC"]
  ["48-10+7-26+4-1+1-26+47-1+10-1+1-1+2-1+5-23+1-31+1-458+4-12+14-5+7-1+1-1+17-117+1-2+3-3+1-1+",
   "6-5+1-1+1-20+1-83+1-139+1-5+2-166+1-38+2-1+6-41+8-45+1-1+1-2+1-2+1-1+8-27+4-4+29-11+5-74+4-",
   "102+1-8+2-10+1-19+2-1+16-59+2-101+14-54+4-1+2-1+2-46+18-28+4-11+5-24+1-7+7-75+1-129+2-10+1-",
   "19+1-8+2-2+2-22+1-7+1-1+3-4+2-9+2-2+2-4+8-1+4-2+1-5+2-12+10-1+1-1+2-3+1-6+4-2+2-22+1-7+1-2+",
   "1-2+1-2+2-1+1-5+4-2+2-3+3-1+7-4+1-1+7-16+11-3+1-9+1-3+1-22+1-7+1-2+1-5+2-10+1-3+1-3+2-1+15-",
   "4+2-10+9-7+1-3+1-8+2-2+2-22+1-7+1-2+1-5+2-9+2-2+2-3+7-3+4-2+1-5+2-10+1-1+16-2+1-6+3-3+1-4+3-",
   "2+1-1+1-2+3-2+3-3+3-12+4-5+3-3+1-4+2-1+6-1+14-10+16-13+1-3+1-23+1-16+2-9+1-3+1-4+7-2+1-3+1-",
   "2+2-4+2-10+16-4+1-8+1-3+1-23+1-10+1-5+2-9+1-3+1-4+7-2+5-3+1-4+2-10+1-3+12-13+1-3+1-51+1-3+1-",
   "5+5-4+7-5+2-10+10-6+1-3+1-18+3-24+1-9+1-1+2-7+3-1+4-6+1-1+1-8+6-10+2-2+13-58+5-15+1-10+39-2+",
   "1-1+1-5+1-24+1-1+1-23+2-5+1-1+1-7+1-10+2-4+32-1+23-2+6-10+11-1+1-1+1-1+4-10+1-36+4-20+1-18+",
   "1-36+9-1+57-74+6-78+2-38+1-1+5-1+2-43+1-333+1-4+2-7+1-1+1-4+2-41+1-4+2-33+1-4+2-7+1-1+1-4+2-",
   "15+1-57+1-4+2-67+2-3+9-9+14-16+16-86+2-6+3-620+2-17+1-26+5-75+3-11+7-22+9-22+11-20+12-13+1-",
   "3+1-2+12-84+3-1+4-2+2-10+33-3+1-11+6-89+7-43+5-70+10-31+1-12+4-12+10-40+2-5+11-44+4-26+6-11+",
   "37-28+4-63+1-29+2-11+6-10+13-1+8-14+1-31+2-12+20-77+3-10+17-9+12-116+12-56+8-10+3-49+2-11+5-",
   "43+2-3+16-3+1-39+5-534+2-6+2-38+2-6+2-8+1-1+1-1+1-1+1-31+2-53+1-7+1-1+3-3+1-7+3-4+2-6+4-13+",
   "5-3+1-7+15-2+49-2+19-1+28-1+13-1+16-13+51-13+4-1+3-12+17-1+4-1+2-10+1-1+2-6+6-1+1-1+1-1+1-",
   "16+2-4+5-5+4-1+17-41+2679-229+6-9+12-38+1-1+5-1+2-56+7-1+15-24+9-7+1-7+1-7+1-7+1-7+1-7+1-7+",
   "1-7+1-32+517-3+25-15+1-5+2-5+4-86+2-2+2-3+1-95+5-43+1-94+17-32+48-16+512-6592+64-22157+67-",
   "46+2-269+3-28+20-48+4-10+1-115+37-9+2-103+2-82+20-55+4-1+19-52+12-70+10-10+6-24+3-1+1-49+2-",
   "36+12-29+3-65+14-11+6-31+1-55+9-14+2-10+6-23+3-73+24-3+2-16+2-5+10-6+2-6+2-6+9-7+1-7+1-43+1-",
   "14+6-123+1-2+2-10+6-11172+12-23+4-49+8452-366+2-106+38-7+12-5+5-12+1-13+1-5+1-1+1-2+1-2+1-",
   "108+33-139+6-218+18-64+2-54+40-10+6-16+16-16+3-2+24-3+33-1+1-1+3-1+1-1+1-1+1-1+1-126+19-10+",
   "7-26+4-1+1-26+10-90+3-6+2-6+2-6+2-3+35-12+1-26+1-19+1-2+1-15+2-14+34-123+69-53+136-1+130-29+",
   "3-49+15-1+31-32+13-30+5-43+5-30+2-36+4-8+1-5+42-158+2-10+6-36+4-36+4-40+8-52+12-11+1-15+1-7+",
   "1-2+1-11+1-15+1-7+1-2+3-52+12-311+9-22+10-8+24-6+1-42+1-9+69-6+2-1+1-44+1-2+3-1+2-23+10-23+",
   "9-31+65-19+1-2+10-22+10-26+6-26+38-56+6-2+64-4+1-2+5-8+1-3+1-29+2-3+4-1+32-29+3-29+35-8+1-",
   "30+25-54+10-22+10-19+13-18+110-73+55-51+13-51+13-40+8-10+6-38+3-5+1-23+250-42+1-2+3-2+16-6+",
   "50-35+10-1+8-33+31-22+42-21+27-23+9-71+31-16+9-60+7-1+13-25+7-10+6-53+1-10+4-4+8-36+2-1+9-",
   "69+4-4+1-13+1-1+35-18+1-37+6-4+62-7+1-1+1-4+1-15+1-10+7-59+5-10+6-4+1-8+2-2+2-22+1-7+1-2+1-",
   "5+1-10+2-2+2-3+2-1+6-1+5-7+2-7+3-5+11-10+1-1+2-1+1-38+1-10+1-1+2-1+1-4+1-8+13-2+29-75+5-10+",
   "4-4+30-70+1-1+8-10+166-54+2-9+23-6+34-65+3-1+11-10+38-57+7-10+6-20+28-27+2-15+4-10+6-7+185-",
   "59+101-74+21-8+2-1+2-8+1-2+1-30+1-2+2-9+12-10+70-8+2-46+2-8+1-2+27-63+8-1+8-74+3-1+18-73+",
   "103-8+88-33+15-10+6-9+1-45+1-9+15-10+24-30+2-22+1-14+73-7+1-2+1-44+3-1+1-2+1-9+8-10+6-6+1-2+",
   "1-37+1-2+1-6+7-10+6-44+4-10+246-23+9-17+1-41+3-5+13-11+85-1+79-922+102-111+17-196+2636-97+",
   "15-1072+16-22+10-3995+5-583+6841-58+1734-569+7-31+1-10+6-79+1-10+6-30+2-5+11-55+9-4+12-10+9-",
   "21+5-19+432-45+3-10+198-64+32-25+2-25+44-75+4-57+7-17+64-2+1-2+11-7+9-7382+41-32+97-115+",
   "8701-4+1-7+1-2+1-291+15-1+29-3+2-1+14-4+8-396+2308-107+5-13+3-9+7-10+3-2+4177-10+518-46+2-",
   "23+542-5+3-6+8-8+2-7+30-4+148-3+443-85+1-71+1-2+2-1+2-2+2-4+1-12+1-1+1-7+1-65+1-4+2-8+1-7+1-",
   "28+1-4+1-5+1-1+3-7+1-340+2-25+1-25+1-31+1-25+1-31+1-25+1-31+1-25+1-31+1-25+1-8+2-50+512-55+",
   "4-50+8-1+14-1+22-5+1-15+1104-31+6-6+213-7+1-17+2-7+1-2+1-5+5-62+33-1+112-45+3-14+2-10+4-1+",
   "321-31+17-58+470-42+214-43+197-31+1-22+8-2+224-7+1-4+1-2+1-15+1-197+11-7+41-76+4-10+1190-4+",
   "1-27+1-2+1-1+2-1+1-10+1-4+1-1+1-1+6-1+4-1+1-1+1-1+1-3+1-2+1-1+2-1+1-1+1-1+1-1+1-1+1-2+1-1+2-",
   "4+1-7+1-4+1-4+1-1+1-10+1-17+5-3+1-5+1-17+3380-10+1030-42720+32-4382+2-5774+2-7473+15-622+",
   "2466-542+1506-4939+5-8490+707718-240+196112-"]

def xidStart : Trait := .ofRuns ["XID_Start", "XIDS"]
  ["65-26+6-26+47-1+10-1+4-1+5-23+1-31+1-458+4-12+14-5+7-1+1-1+129-5+1-2+3-3+1-1+6-1+1-3+1-1+1-",
   "20+1-83+1-139+8-166+1-38+2-1+6-41+71-27+4-4+45-43+35-2+1-99+1-1+15-2+7-2+10-3+2-1+16-1+1-30+",
   "29-89+11-1+24-33+9-2+4-1+5-22+4-1+9-1+3-1+23-25+7-11+5-24+1-7+16-42+58-54+3-1+18-1+7-10+15-",
   "16+4-8+2-2+2-22+1-7+1-1+3-4+3-1+16-1+13-2+1-3+14-2+10-1+8-6+4-2+2-22+1-7+1-2+1-2+1-2+31-4+1-",
   "1+19-3+16-9+1-3+1-22+1-7+1-2+1-5+3-1+18-1+15-2+23-1+11-8+2-2+2-22+1-7+1-2+1-5+3-1+30-2+1-3+",
   "15-1+17-1+1-6+3-3+1-4+3-2+1-1+1-2+3-2+3-3+3-12+22-1+52-8+1-3+1-23+1-16+3-1+26-3+1-2+2-2+30-",
   "1+4-8+1-3+1-23+1-10+1-5+3-1+30-3+1-2+15-2+17-9+1-3+1-41+2-1+16-1+5-3+8-3+24-6+5-18+3-24+1-9+",
   "1-1+2-7+58-48+1-1+13-7+58-2+1-1+1-5+1-24+1-1+1-10+1-1+10-1+2-5+1-1+21-4+32-1+63-8+1-36+27-5+",
   "115-43+20-1+16-6+4-4+3-1+3-2+7-3+4-13+12-1+17-38+1-1+5-1+2-43+1-333+1-4+2-7+1-1+1-4+2-41+1-",
   "4+2-33+1-4+2-7+1-1+1-4+2-15+1-57+1-4+2-67+37-16+16-86+2-6+3-620+2-17+1-26+5-75+3-11+7-18+13-",
   "19+14-18+14-13+1-3+15-52+35-1+4-1+67-89+7-41+1-1+5-70+10-31+49-30+2-5+11-44+4-26+54-23+9-53+",
   "82-1+93-47+17-8+54-30+13-2+10-44+26-36+41-3+10-36+2-11+5-43+2-3+41-4+1-6+1-2+3-1+5-192+64-",
   "278+2-6+2-38+2-6+2-8+1-1+1-1+1-1+1-31+2-53+1-7+1-1+3-3+1-7+3-4+2-6+4-13+5-3+1-7+116-1+13-1+",
   "16-13+101-1+4-1+2-10+1-1+2-6+6-1+1-1+1-1+1-16+2-4+5-5+4-1+17-41+2679-229+6-4+3-2+12-38+1-1+",
   "5-1+2-56+7-1+16-23+9-7+1-7+1-7+1-7+1-7+1-7+1-7+1-7+550-3+25-9+7-5+2-5+4-86+6-3+1-90+1-4+5-",
   "43+1-94+17-32+48-16+512-6592+64-22157+67-46+2-269+3-16+10-2+20-47+16-31+2-80+39-9+2-103+2-",
   "82+20-17+1-3+1-4+1-23+29-52+14-50+62-6+3-1+1-2+11-28+10-23+25-29+7-47+28-1+16-5+1-10+10-5+1-",
   "41+23-3+1-8+20-23+3-1+3-50+1-1+3-2+2-5+2-1+1-1+24-3+2-11+7-3+12-6+2-6+2-6+9-7+1-7+1-43+1-14+",
   "6-115+29-11172+12-23+4-49+8452-366+2-106+38-7+12-5+5-1+1-10+1-13+1-5+1-1+1-2+1-2+1-108+33-",
   "139+6-218+18-64+2-54+40-10+119-1+1-1+3-1+1-1+1-1+1-1+1-126+36-26+6-26+11-56+2-31+3-6+2-6+2-",
   "6+2-3+35-12+1-26+1-19+1-2+1-15+2-14+34-123+69-53+267-29+3-49+47-32+13-30+5-38+10-30+2-36+4-",
   "8+1-5+42-158+18-36+4-36+4-40+8-52+12-11+1-15+1-7+1-2+1-11+1-15+1-7+1-2+3-52+12-311+9-22+10-",
   "8+24-6+1-42+1-9+69-6+2-1+1-44+1-2+3-1+2-23+10-23+9-31+65-19+1-2+10-22+10-26+6-26+38-56+6-2+",
   "64-1+15-4+1-3+1-29+42-29+3-29+35-8+1-28+27-54+10-22+10-19+13-18+110-73+55-51+13-51+13-36+38-",
   "28+9-23+250-42+6-2+16-6+56-29+10-1+8-22+42-18+46-21+27-23+12-53+57-2+2-1+13-45+32-25+26-36+",
   "29-1+2-1+8-35+3-1+12-48+14-4+21-1+1-1+35-18+1-25+19-2+63-7+1-1+1-4+1-15+1-10+7-47+38-8+2-2+",
   "2-22+1-7+1-2+1-5+3-1+18-1+12-5+30-10+1-1+2-1+1-38+1-1+25-1+1-1+44-53+18-4+20-3+30-48+20-2+1-",
   "1+184-47+41-4+36-48+20-1+59-43+13-1+71-27+37-7+185-44+116-64+31-8+2-1+2-8+1-2+1-24+15-1+1-1+",
   "94-8+2-39+16-1+1-1+28-1+10-40+7-1+21-1+11-46+19-1+18-73+199-33+31-9+1-37+17-1+49-30+112-7+1-",
   "2+1-38+21-1+25-6+1-2+1-32+14-1+23-44+260-19+15-1+1-13+1-34+124-1+79-922+102-111+17-196+2636-",
   "97+15-1072+17-6+25-3995+5-583+6841-30+1762-569+7-31+17-79+17-30+18-48+16-4+31-21+5-19+432-",
   "45+211-64+32-25+2-25+44-75+5-1+66-13+64-2+1-1+14-5+9-7382+41-32+97-115+8701-4+1-7+1-2+1-291+",
   "15-1+29-3+2-1+14-4+8-396+2308-107+5-13+3-9+7-10+5990-85+1-71+1-2+2-1+2-2+2-4+1-12+1-1+1-7+1-",
   "65+1-4+2-8+1-7+1-28+1-4+1-5+1-1+3-7+1-340+2-25+1-25+1-31+1-25+1-31+1-25+1-31+1-25+1-31+1-25+",
   "1-8+1844-31+6-6+261-62+146-45+10-7+16-1+321-30+18-44+484-28+228-30+2-1+207-31+1-3+1-2+1-7+2-",
   "5+9-2+224-7+1-4+1-2+1-15+1-197+59-68+7-1+1204-4+1-27+1-2+1-1+2-1+1-10+1-4+1-1+1-1+6-1+4-1+1-",
   "1+1-1+1-3+1-2+1-1+2-1+1-1+1-1+1-1+1-1+1-2+1-1+2-4+1-7+1-4+1-4+1-1+1-10+1-17+5-3+1-5+1-17+",
   "4420-42720+32-4382+2-5774+2-7473+15-622+2466-542+1506-4939+5-8490+904070-"]

def all : List Trait :=
  [alphabetic, asciiHexDigit, bidiControl, caseIgnorable, cased, changesWhenCasefolded,
   changesWhenCasemapped, changesWhenLowercased, changesWhenTitlecased, changesWhenUppercased,
   dash, defaultIgnorableCodePoint, deprecated, diacritic, emoji, emojiComponent, emojiModifier,
   emojiModifierBase, emojiPresentation, extendedPictographic, extender, graphemeBase,
   graphemeExtend, hexDigit, idsBinaryOperator, idsTrinaryOperator, idContinue, idStart,
   ideographic, joinControl, logicalOrderException, lowercase, math, noncharacterCodePoint,
   patternSyntax, patternWhiteSpace, quotationMark, radical, regionalIndicator, sentenceTerminal,
   softDotted, terminalPunctuation, unifiedIdeograph, uppercase, variationSelector, whiteSpace,
   xidContinue, xidStart]

end Trait
end RepositoryAccess.Text
