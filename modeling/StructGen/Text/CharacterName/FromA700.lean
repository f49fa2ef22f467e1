import StructGen.Text.CharacterName.Run

/-!
# Names of the characters from U+A700
-/

namespace StructGen.Text.CharacterName

/-- The names of the characters from U+A700 up to U+11FF1. -/
def namesFromA700 : List Run := [
  ⟨0xA700, ["vkkCHINESEyvYIN PING;4YANG PING;4YIN SHANG;4YANG SHANG;4YIN QU;4YANG QU;4YIN RU;",
    "4YANG RU;2EXTRA-HIGHslyvqr;2twslyvqr;2MIDslyvqr;2uzslyvqr;2EXTRA-LOWslyvqr;",
    "2EXTRA-HIGHslLEFT-STEMyvqr;2twslLEFT-STEMyvqr;2MIDslLEFT-STEMyvqr;2uzslLEFT-STEMyvqr;",
    "2EXTRA-LOWslLEFT-STEMyvqr;2EXTRA-HIGH LEFT-STEMyvqr;2twLEFT-STEMyvqr;2MID LEFT-STEMyvqr;",
    "2uzLEFT-STEMyvqr;2EXTRA-LOW LEFT-STEMyvqr;2sjznqr;3SLASH;3tzqr;2valrrqh;2xczgc;3snc;3syve;",
    "3uhsyve;2uzuhsyve;2STRESSbtwyv;4uzyv;uqekEGYPTOLOGICALqd;1okEGYPTOLOGICALqd;",
    "1ekEGYPTOLOGICAL AIN;1okEGYPTOLOGICAL AIN;1ekHENG;1okHENG;1ekTZ;1okTZ;1ekTRESILLO;",
    "1okTRESILLO;1ekCUATRILLO;1okCUATRILLO;1ekCUATRILLOprn;1okCUATRILLOprn;1koeF;4S;1ekAA;",
    "1okAA;1ekAO;1okAO;1ekAU;1okAU;1ekAV;1okAV;1ekAVptzqr;1okAVptzqr;1ekAY;1okAY;1ekxfCpsj;",
    "1okxfCpsj;1ekKpyd;1okKpyd;1ekKpseyd;1okKpseyd;1ekKpydbseyd;1okKpydbseyd;1ekBROKEN L;",
    "1okBROKEN L;1ekLptwyd;1okLptwyd;1ekOpuyydwj;1okOpuyydwj;1ekOpLOOP;1okOpLOOP;1ekOO;1okOO;",
    "1ekPpydTHROUGHsc;1okPpydTHROUGHsc;1ekPpFLOURISH;1okPpFLOURISH;1ekPpSQUIRRELyk;",
    "1okPpSQUIRRELyk;1ekQpydTHROUGHsc;1okQpydTHROUGHsc;1ekQpseyd;1okQpseyd;1ekR ROTUNDA;",
    "1okR ROTUNDA;1ekRUM ROTUNDA;1okRUM ROTUNDA;1ekVpseyd;1okVpseyd;1ekVY;1okVY;",
    "1ekVISIGOTHIC Z;1okVISIGOTHIC Z;1ekTHORNpyd;1okTHORNpyd;1ekTHORNpydTHROUGHsc;",
    "1okTHORNpydTHROUGHsc;1ekVEND;1okVEND;1ekET;1okET;1ekIS;1okIS;1ekCON;1okCON;vkkUS;uqokDUM;",
    "3LUM;3MUM;3NUM;3RUM;1koeRUM;1okTUM;3UM;1ekueD;1okueD;1ekueF;1okueF;1ekueG;3zcueG;1okzcueG;",
    "1ekzcL;1okzcL;1ekueR;1okueR;1ekueS;1okueS;1ekueT;1okueT;vkkuzriqb;2rl;2xrsvn;uqekSALTILLO;",
    "1okSALTILLO;1ekzcH;1okLpxdtybBELT;1kSINOLOGICALsj;1ekNpsc;1okNpsc;1ekCpqr;1okCpqr;5wmty;",
    "3Hpwmty;1ekBpFLOURISH;1okBpFLOURISH;1ekFpyd;1okFpyd;1ekVOLAPUK AE;1okVOLAPUK AE;",
    "1ekVOLAPUK OE;1okVOLAPUK OE;1ekVOLAPUK UE;1okVOLAPUK UE;1ekGpOBLIQUEyd;1okGpOBLIQUEyd;",
    "1ekKpOBLIQUEyd;1okKpOBLIQUEyd;1ekNpOBLIQUEyd;1okNpOBLIQUEyd;1ekRpOBLIQUEyd;1okRpOBLIQUEyd;",
    "1ekSpOBLIQUEyd;1okSpOBLIQUEyd;1ekHpty;3xfweE;3xlG;3LpBELT;3oeI;1koeQ;1ekzcK;4T;",
    "3JpCROSSED-TAIL;3CHI;3BETA;1okBETA;1ekwb;1okwb;1ekUpyd;1okUpyd;1ektgA;1oktgA;1ektgI;",
    "1oktgI;1ektgU;1oktgU;1ekwaPOLISH O;1okwaPOLISH O;1ekANGLICANA W;1okANGLICANA W;1ekCpwmty;",
    "3Spty;3Zpwmty;3Dpxrydwj;1okDpxrydwj;1ekSpxrydwj;1okSpxrydwj"]⟩,
  ⟨0xA7D0, ["uqekrkueG;1okrkueG;;3fTHORN;;4WYNN;1ekvjSCOTS S;1okvjSCOTS S;1ekSIGMOID S;",
    "1okSIGMOID S"]⟩,
  ⟨0xA7F2, ["vkkeC;3F;3Q;uqekxftnH;1okxftnH;1EPIGRAPHICkSIDEWAYS I;vkkeHpyd;2ouuOE;uqkoezcM;",
    "1EPIGRAPHICkxfF;4P;3uhM;3I LONGA;3qmM;SYLOTI NAGRIkA;3I;2nDVISVARA;2kU;3E;3O;2nHASANTA;",
    "2kKO;3KHO;3GO;3GHO;2nqj;2kCO;3CHO;3JO;3JHO;3TTO;3TTHO;3DDO;3DDHO;3yu;3THO;3DO;3DHO;3NO;",
    "3PO;3PHO;3BO;3BHO;3MO;3RO;3LO;3RRO;3SO;3HO;2zrnA;4I;4U;4E;4OO;2POETRY MARK-1;3MARK-2;",
    "3MARK-3;3MARK-4;2nqfHASANTA"]⟩,
  ⟨0xA830, ["vvINDICtewdwx;4tn;3yqwy;3wdSIXTEENTH;4ss;3yqSIXTEENTHS;2wxve;2PLACEHOLDERve;",
    "2RUPEEve;2QUANTITYve"]⟩,
  ⟨0xA840, ["PHAGS-PAkuk;2ul;2GA;2vr;2CA;2re;2JA;2vy;2yj;2yn;2DA;2vo;2wl;2wp;2BA;2vb;2TSA;",
    "2TSHA;2DZA;2WA;2ZHA;2ZA;2oA;2zv;2xb;2uo;2xq;2xj;2tl;2A;2I;2U;2E;2O;2QA;2XA;2FA;2GGA;2EE;",
    "1SUBJOINEDkWA;3zv;1kTTA;2zb;2DDA;2NNA;2qfzv;2VOICELESSxq;2VOICEDtl;2ASPIRATED FA;",
    "1SUBJOINEDkxb;1SUPERFIXEDkxb;1kra;1xtHEADve;1fHEADve;1veSHAD;2fSHAD"]⟩,
  ⟨0xA880, ["SAURASHTRAnqj;2zp;1kA;2AA;2I;2II;2U;2UU;2zqR;3RR;3L;3LL;2E;2EE;2AI;2O;2OO;2AU;2uk;",
    "2ul;2GA;2GHA;2vr;2CA;2re;2JA;2JHA;2vy;2TTA;2zb;2DDA;2sa;2NNA;2yj;2yn;2DA;2DHA;2vo;2wl;2wp;",
    "2BA;2BHA;2vb;2zv;2xb;2uo;2VA;2xq;2SSA;2xj;2tl;2LLA;1rpnHAARU;1zrnAA;3I;3II;3U;3UU;3zqR;",
    "4RR;4L;4LL;3E;3EE;3AI;3O;3OO;3AU;1nzo;2ra"]⟩,
  ⟨0xA8CE, ["SAURASHTRArx;1frx;1shzz;2wd;2ze;2yq;2td;2tc;2xu;2xo;2sr;2vs"]⟩,
  ⟨0xA8E0, ["rmDEVANAGARIshzz;3wd;3ze;3yq;3td;3tc;3xu;3xo;3sr;3vs;2kA;3U;3uk;3vo;3wl;3xb;3VI;",
    "2nqq;DEVANAGARInSPACINGra;2razo;2frazo;2raze;3yq;3qq;2PUSHPIKA;1GAP FILLER;1CARET;",
    "1HEADSTROKE;1nSIDDHAM;1JAIN OM;1kAY;1zrnAY;KAYAH LIshzz;3wd;3ze;3yq;3td;3tc;3xu;3xo;3sr;",
    "3vs;2kuk;3ul;3GA;3vr;3xj;3xq;3ZA;3vy;3yj;3HTA;3vo;3wl;3wp;3vb;3DA;3BA;3xb;3zv;3uo;3WA;3yn;",
    "3tl;3VA;3CA;3A;3OE;3I;3OO;2zrUE;3E;3U;3EE;3O;2yvPLOPHU;3CALYA;4PLOPHU;2nCWI;3SHYA;",
    "REJANGkuk;2GA;2vr;2yj;2DA;2vo;2wl;2BA;2vb;2CA;2JA;2vy;2xj;2xb;2uo;2zv;2WA;2tl;2MBA;2NGGA;",
    "2NDA;2NYJA;2A;1zrnI;3U;3E;3AI;3O;3AU;3EU;3EA;1rpnNG;3N;3R;3H;1zo"]⟩,
  ⟨0xA95F, ["REJANGxmve;HANGUL CHOSEONG TIKEUT-MIEUM;2TIKEUT-PIEUP;2TIKEUT-SIOS;2TIKEUT-CIEUC;",
    "2RIEUL-KIYEOK;2RIEUL-SSANGKIYEOK;2RIEUL-TIKEUT;2RIEUL-SSANGTIKEUT;2RIEUL-MIEUM;",
    "2RIEUL-PIEUP;2RIEUL-SSANGPIEUP;2RIEUL-KAPYEOUNPIEUP;2RIEUL-SIOS;2RIEUL-CIEUC;",
    "2RIEUL-KHIEUKH;2MIEUM-KIYEOK;2MIEUM-TIKEUT;2MIEUM-SIOS;2PIEUP-SIOS-THIEUTH;2PIEUP-KHIEUKH;",
    "2PIEUP-HIEUH;2SSANGSIOS-PIEUP;2IEUNG-RIEUL;2IEUNG-HIEUH;2SSANGCIEUC-HIEUH;2SSANGTHIEUTH;",
    "2PHIEUPH-HIEUH;2HIEUH-SIOS;2SSANGYEORINHIEUH"]⟩,
  ⟨0xA980, ["JAVANESEnPANYANGGA;2CECAK;2LAYAR;2WIGNYAN;1kA;2I KAWI;2I;2II;2U;2wlCEREK;2vrLELET;",
    "4RASWADI;2E;2AI;2O;2uk;3SASAK;3MURDA;2GA;3MURDA;2vr;2CA;3MURDA;2JA;2vyMURDA;2JA MAHAPRANA;",
    "2vy;2TTA;3MAHAPRANA;2DDA;3MAHAPRANA;2voMURDA;2yj;3MURDA;2DA;3MAHAPRANA;2vo;2wl;3MURDA;2BA;",
    "3MURDA;2vb;2zv;2xb;3AGUNG;2uo;2WA;2xjMURDA;3MAHAPRANA;2xj;2tl;1nCECAK TELU;1zrnTARUNG;",
    "3TOLONG;3WULU;4MELIK;3SUKU;4MENDUT;3TALING;3DIRGA MURE;3PEPET;1rpnKERET;3PENGKAL;3CAKRA;",
    "1PANGKON;1jRERENGGAN;1lRERENGGAN;1PADA ANDAP;2MADYA;2LUHUR;2WINDU;2PANGKAT;2LINGSA;",
    "2LUNGSI;2ADEG;3ADEG;2PISELEH;1zcPADA PISELEH;;1PANGRANGKEP;1shzz;2wd;2ze;2yq;2td;2tc;2xu;",
    "2xo;2sr;2vs"]⟩,
  ⟨0xA9DE, ["JAVANESE PADA TIRTA TUMETES;2ISEN-ISEN;MYANMARkSHAN GHA;3re;3JHA;3NNA;3BHA;",
    "1nSHAN SAW;1vkkSHAN REDUPLICATION;1kTAI LAINGvy;4FA;4GA;4GHA;4JA;4JHA;4DDA;4sa;4NNA;",
    "1TAI LAINGshzz;4wd;4ze;4yq;4td;4tc;4xu;4xo;4sr;4vs;1kTAI LAING LLA;4DA;4DHA;4BA;4BHA;;",
    "CHAMkA;2I;2U;2E;2AI;2O;2uk;2ul;2GA;2GHA;2NGUE;2vr;2re;2CHHA;2JA;2JHA;2NHUE;2NHA;2NHJA;2yj;",
    "2yn;2DA;2DHA;2NUE;2vo;2DDA;2wl;2PPA;2wp;2BA;2BHA;2MUE;2vb;2BBA;2zv;2xb;2uo;2VA;2SSA;2xj;",
    "2tl;1zrnAA;3I;3II;3EI;3U;3OE;3O;3AI;3AU;3UE;1rpnzv;3xb;3uo;3WA"]⟩,
  ⟨0xAA40, ["CHAMkgK;3G;3NG;1rpngNG;1kgCH;3T;3N;3P;3Y;3R;3L;3SS;1rpngM;4H;;;1shzz;2wd;2ze;2yq;",
    "2td;2tc;2xu;2xo;2sr;2vs;;;1wvSPIRAL;2rx;2frx;2zarx;MYANMARkKHAMTI GA;3CA;3re;3JA;3JHA;3vy;",
    "3TTA;3zb;3DDA;3sa;3DHA;3vo;3xj;3tl;3HHA;3FA;1vkkKHAMTI REDUPLICATION;1kKHAMTI XA;3ZA;3xb;",
    "1LOGOGRAM KHAMTI OAY;3QN;3HM;1yiAITONsy;3wd;3ze;1kAITONxb;1nPAO KARENyv;2TAI LAING TONE-2;",
    "4TONE-5;1kSHWE PALAUNGre;4xq;TAI VIETkuzKO;3twKO;3uzKHO;3twKHO;3uzKHHO;3twKHHO;3uzGO;",
    "3twGO;3uzNGO;3twNGO;3uzCO;3twCO;3uzCHO;3twCHO;3uzSO;3twSO;3uzNYO;3twNYO;3uzDO;3twDO;3uzyu;",
    "3twyu;3uzTHO;3twTHO;3uzNO;3twNO;3uzBO;3twBO;3uzPO;3twPO;3uzPHO;3twPHO;3uzFO;3twFO;3uzMO;",
    "3twMO;3uzYO;3twYO;3uzRO;3twRO;3uzLO;3twLO;3uzVO;3twVO;3uzHO;3twHO;3uzO;3twO;2MAI KANG;",
    "2zrAA;3I;3UE;3U;3E;3O;2MAI KHIT;2zrIA;3UEA;3UA;3AUE;3AY;3AN;3AM;2yvMAI EK;4NUENG;4THO;",
    "4SONG"]⟩,
  ⟨0xAADB, ["TAI VIETyiKON;3NUENG;3SAM;3HO HOI;3KOI KOI;MEETEI MAYEKkE;3O;3re;3vy;3TTA;3zb;",
    "3DDA;3sa;3NNA;3xq;3SSA;2zrnII;4UU;4AAI;4AU;4AAU;2CHEIKHAN;2AHANG KHUDAM;2ANJI;",
    "2yhREPETITIONve;2WORD REPETITIONve;2zrnzp;2zo"]⟩,
  ⟨0xAB01, ["ETHIOPICyhTTHU;2TTHI;2TTHAA;2TTHEE;2TTHE;2TTHO;;;2DDHU;2DDHI;2DDHAA;2DDHEE;2DDHE;",
    "2DDHO;;;2DZU;2DZI;2DZAA;2DZEE;2DZE;2DZO"]⟩,
  ⟨0xAB20, ["ETHIOPICyhCCHHA;2CCHHU;2CCHHI;2CCHHAA;2CCHHEE;2CCHHE;2CCHHO;;2BBA;2BBU;2BBI;2BBAA;",
    "2BBEE;2BBE;2BBO;;uqokBARREDqe;3A REVERSED-SCHWA;3BLACKLETTER E;3BARRED E;3EpFLOURISH;",
    "3LENIS F;3xlGpCROSSED-TAIL;3LpuhLAZY S;5fvjys;5vjxh;3MpCROSSED-TAIL;3NpCROSSED-TAIL;",
    "3ENGpCROSSED-TAIL;3BLACKLETTER O;5pyd;3weOpyd;3uhOE;3zcOEpyd;6tzyd;4O OPEN-O;6pyd;",
    "3STIRRUP R;1koeRplLEG;1okR WITHOUT HANDLE;3fR;3RpCROSSED-TAIL;3fRpCROSSED-TAIL;3xlR;5pxh;",
    "3BASELINE ESH;3UpxrlLEG;4qrpxrlLEG;3UI;3zcUI;3Upjty;3CHI;4puzlxh;6jSERIF;3Xpuzlxh;5uyjLEG;",
    "8buzlxh;8pSERIF;3YpxrlLEG;vkqypuhqy;1koHENG;3LpuhLAZY S;5vjys;3Upjty;uqokSAKHA YAT;3uiE;",
    "3weOE;3UO;3uhqe;tjkoewb;uqokDZsipxdty;3TSsipxdty;3zcRpvjys;vkkozcW;2jTACK;2lTACK"]⟩,
  ⟨0xAB70, ["CHEROKEEokA;3E;3I;3O;3U;3V;3GA;3uk;3GE;3GI;3GO;3GU;3GV;3tl;3HE;3HI;3HO;3HU;3HV;",
    "3uo;3LE;3LI;3LO;3LU;3LV;3vb;3ME;3MI;3MO;3MU;3vo;3HNA;3NAH;3NE;3NI;3NO;3NU;3NV;3QUA;3QUE;",
    "3QUI;3QUO;3QUU;3QUV;3xj;3S;3SE;3SI;3SO;3SU;3SV;3DA;3yj;3DE;3TE;3DI;3TI;3DO;3DU;3DV;3DLA;",
    "3TLA;3TLE;3TLI;3TLO;3TLU;3TLV;3TSA;3TSE;3TSI;3TSO;3TSU;3TSV;3WA;3WE;3WI;3WO;3WU;3WV;3zv;",
    "MEETEI MAYEKkKOK;3SAM;3LAI;3MIT;3wl;3vo;3CHIL;3TIL;3KHOU;3NGOU;3THOU;3WAI;3YANG;3HUK;3UN;",
    "3I;3PHAM;3ATIYA;3GOK;3JHAM;3RAI;3BA;3JIL;3DIL;3GHOU;3DHOU;3BHAM;3KOK LONSUM;3LAI LONSUM;",
    "3MIT LONSUM;3wlLONSUM;3voLONSUM;3TIL LONSUM;3NGOU LONSUM;3I LONSUM;2zrnONAP;4INAP;4ANAP;",
    "4YENAP;4SOUNAP;4UNAP;4CHEINAP;4NUNG;2CHEIKHEI;2LUM IYEK;2APUN IYEK;;;2shzz;3wd;3ze;3yq;",
    "3td;3tc;3xu;3xo;3sr;3vs"]⟩,
  ⟨0xD7B0, ["HANGUL JUNGSEONG O-YEO;2O-O-I;2YO-A;2YO-AE;2YO-EO;2U-YEO;2U-I-I;2YU-AE;2YU-O;",
    "2EU-A;2EU-EO;2EU-E;2EU-O;2I-YA-O;2I-YAE;2I-YEO;2I-YE;2I-O-I;2I-YO;2I-YU;2I-I;2ARAEA-A;",
    "2ARAEA-E"]⟩,
  ⟨0xD7CB, ["HANGUL JONGSEONG NIEUN-RIEUL;2NIEUN-CHIEUCH;2SSANGTIKEUT;2SSANGTIKEUT-PIEUP;",
    "2TIKEUT-PIEUP;2TIKEUT-SIOS;2TIKEUT-SIOS-KIYEOK;2TIKEUT-CIEUC;2TIKEUT-CHIEUCH;",
    "2TIKEUT-THIEUTH;2RIEUL-SSANGKIYEOK;2RIEUL-KIYEOK-HIEUH;2SSANGRIEUL-KHIEUKH;",
    "2RIEUL-MIEUM-HIEUH;2RIEUL-PIEUP-TIKEUT;2RIEUL-PIEUP-PHIEUPH;2RIEUL-YESIEUNG;",
    "2RIEUL-YEORINHIEUH-HIEUH;2KAPYEOUNRIEUL;2MIEUM-NIEUN;2MIEUM-SSANGNIEUN;2SSANGMIEUM;",
    "2MIEUM-PIEUP-SIOS;2MIEUM-CIEUC;2PIEUP-TIKEUT;2PIEUP-RIEUL-PHIEUPH;2PIEUP-MIEUM;",
    "2SSANGPIEUP;2PIEUP-SIOS-TIKEUT;2PIEUP-CIEUC;2PIEUP-CHIEUCH;2SIOS-MIEUM;",
    "2SIOS-KAPYEOUNPIEUP;2SSANGSIOS-KIYEOK;2SSANGSIOS-TIKEUT;2SIOS-PANSIOS;2SIOS-CIEUC;",
    "2SIOS-CHIEUCH;2SIOS-THIEUTH;2SIOS-HIEUH;2PANSIOS-PIEUP;2PANSIOS-KAPYEOUNPIEUP;",
    "2YESIEUNG-MIEUM;2YESIEUNG-HIEUH;2CIEUC-PIEUP;2CIEUC-SSANGPIEUP;2SSANGCIEUC;2PHIEUPH-SIOS;",
    "2PHIEUPH-THIEUTH"]⟩,
  ⟨0xFB00, ["uqouuFF;3FI;3FL;3FFI;3FFL;3uyS T;3ST"]⟩,
  ⟨0xFB13, ["ARMENIANouuMEN NOW;4ECH;4INI;3VEW NOW;3MEN XEH"]⟩,
  ⟨0xFB1D, ["HEBREWkYODpHIRIQ;1POINT JUDEO-SPANISH VARIKA;1uuYIDDISH YOD YOD PATAH;",
    "1kALTERNATIVE AYIN;2WIDEqd;3DALET;3HE;3KAF;3LAMED;3gMEM;3RESH;3TAV;2ALTERNATIVEwqn;",
    "2SHINpSHINsj;4SINsj;4rwbSHINsj;6SINsj;2qdpPATAH;4QAMATS;4MAPIQ;2BETprw;2GIMELprw;",
    "2DALETprw;2HEpMAPIQ;2VAVprw;2ZAYINprw;;2TETprw;2YODprw;2gKAFprw;2KAFprw;2LAMEDprw;;",
    "2MEMprw;;2NUNprw;2SAMEKHprw;;2gPEprw;2PEprw;;2TSADIprw;2QOFprw;2RESHprw;2SHINprw;2TAVprw;",
    "2VAVpHOLAM;2BETpRAFE;2KAFpRAFE;2PEpRAFE;1uuqdLAMED;qkkqdWASLAih;4gh;2BEEHih;3gh;3udh;3vgh;",
    "2PEHih;3gh;3udh;3vgh;2BEHEHih;3gh;3udh;3vgh;2TTEHEHih;3gh;3udh;3vgh;2TEHEHih;3gh;3udh;",
    "3vgh;2TTEHih;3gh;3udh;3vgh;2VEHih;3gh;3udh;3vgh;2PEHEHih;3gh;3udh;3vgh;2DYEHih;3gh;3udh;",
    "3vgh;2NYEHih;3gh;3udh;3vgh;2TCHEHih;3gh;3udh;3vgh;2TCHEHEHih;3gh;3udh;3vgh;2DDAHALih;3gh;",
    "2DAHALih;3gh;2DULih;3gh;2DDALih;3gh;2JEHih;3gh;2RREHih;3gh;2KEHEHih;3gh;3udh;3vgh;2GAFih;",
    "3gh;3udh;3vgh;2GUEHih;3gh;3udh;3vgh;2NGOEHih;3gh;3udh;3vgh;2vuGHUNNAih;4gh;2RNOONih;3gh;",
    "3udh;3vgh;2HEHpzwaih;6gh;3GOALih;4gh;4udh;4vgh;3DOACHASHMEEih;4gh;4udh;4vgh;2zwBARREEih;",
    "4gh;4ptoaih;7gh;1yisja;3d;2zeska;4d;2yqska;4d;4wsspa;6d;2tdska;4d;2fznqrd;",
    "2zeskVERTICALLYa;5d;2xh;2oTAHa;4d;2WASLAa"]⟩,
  ⟨0xFBD3, ["qkkNGih;3gh;3udh;3vgh;2Uih;3gh;2OEih;3gh;2YUih;3gh;2Uptoaih;2VEih;3gh;",
    "2KIRGHIZ OEih;4gh;3YUih;4gh;2Eih;3gh;3udh;3vgh;2UIGHUR KAZAKH KIRGHIZqdvdudh;7vgh;",
    "1uuzwptoapqdih;8gh;7AEih;8gh;7WAWih;8gh;7Uih;8gh;7OEih;8gh;7YUih;8gh;7Eih;8gh;8udh;",
    "2UIGHUR KIRGHIZzwptoapqdvdih;9qdvdgh;9qdvdudh;1kFARSIzwih;4gh;4udh;4vgh;1uuzwptoapujih;",
    "7tmih;7viih;7qdvdih;7zwih;2BEHpujih;4tmih;4umih;4viih;4qdvdih;4zwih;2TEHpujih;4tmih;4umih;",
    "4viih;4qdvdih;4zwih;2THEHpujih;4viih;4qdvdih;4zwih;2ujptmih;4viih;2tmpujih;4viih;2umpujih;",
    "4tmih;4viih;2SEENpujih;4tmih;4umih;4viih;2SADptmih;4viih;2DADpujih;4tmih;4umih;4viih;",
    "2TAHptmih;4viih;2ZAHpviih;2AINpujih;4viih;2GHAINpujih;4viih;2FEHpujih;4tmih;4umih;4viih;",
    "4qdvdih;4zwih;2QAFptmih;4viih;4qdvdih;4zwih;2KAFpqdih;4ujih;4tmih;4umih;4LAMih;4viih;",
    "4qdvdih;4zwih;2LAMpujih;4tmih;4umih;4viih;4qdvdih;4zwih;2vipujih;4tmih;4umih;4viih;",
    "4qdvdih;4zwih;2vupujih;4tmih;4umih;4viih;4qdvdih;4zwih;2HEHpujih;4viih;4qdvdih;4zwih;",
    "2zwpujih;4tmih;4umih;4viih;4qdvdih;4zwih;2THALpyfqdih;2REHpyfqdih;2qdvdpyfqdih;",
    "2SHADDApDAMMATANih;4KASRATANih;4FATHAih;4DAMMAih;4KASRAih;4yfqdih;2zwptoapREHgh;7ZAINgh;",
    "7vigh;7vugh;7qdvdgh;7zwgh;2BEHpREHgh;4ZAINgh;4vigh;4vugh;4qdvdgh;4zwgh;2TEHpREHgh;4ZAINgh;",
    "4vigh;4vugh;4qdvdgh;4zwgh;2THEHpREHgh;4ZAINgh;4vigh;4vugh;4qdvdgh;4zwgh;2FEHpqdvdgh;4zwgh;",
    "2QAFpqdvdgh;4zwgh;2KAFpqdgh;4LAMgh;4vigh;4qdvdgh;4zwgh;2LAMpvigh;4qdvdgh;4zwgh;2vipqdgh;",
    "4vigh;2vupREHgh;4ZAINgh;4vigh;4vugh;4qdvdgh;4zwgh;2qdvdpyfqdgh;2zwpREHgh;4ZAINgh;4vigh;",
    "4vugh;4qdvdgh;4zwgh;4toapujudh;7tmudh;7umudh;7viudh;7HEHudh;2BEHpujudh;4tmudh;4umudh;",
    "4viudh;4HEHudh;2TEHpujudh;4tmudh;4umudh;4viudh;4HEHudh;2THEHpviudh;2ujptmudh;4viudh;",
    "2tmpujudh;4viudh;2umpujudh;4viudh;2SEENpujudh;4tmudh;4umudh;4viudh;2SADptmudh;4umudh;",
    "4viudh;2DADpujudh;4tmudh;4umudh;4viudh;2TAHptmudh;2ZAHpviudh;2AINpujudh;4viudh;",
    "2GHAINpujudh;4viudh;2FEHpujudh;4tmudh;4umudh;4viudh;2QAFptmudh;4viudh;2KAFpujudh;4tmudh;",
    "4umudh;4LAMudh;4viudh;2LAMpujudh;4tmudh;4umudh;4viudh;4HEHudh;2vipujudh;4tmudh;4umudh;",
    "4viudh;2vupujudh;4tmudh;4umudh;4viudh;4HEHudh;2HEHpujudh;4viudh;4yfqdudh;2zwpujudh;4tmudh;",
    "4umudh;4viudh;4HEHudh;4toapvivgh;7HEHvgh;2BEHpvivgh;4HEHvgh;2TEHpvivgh;4HEHvgh;",
    "2THEHpvivgh;4HEHvgh;2SEENpvivgh;4HEHvgh;2SHEENpvivgh;4HEHvgh;2KAFpLAMvgh;4vivgh;",
    "2LAMpvivgh;2vupvivgh;4HEHvgh;2zwpvivgh;4HEHvgh;2SHADDApFATHAvgh;4DAMMAvgh;4KASRAvgh;",
    "2TAHpqdvdih;4zwih;2AINpqdvdih;4zwih;2GHAINpqdvdih;4zwih;2SEENpqdvdih;4zwih;2SHEENpqdvdih;",
    "4zwih;2tmpqdvdih;4zwih;2ujpqdvdih;4zwih;2umpqdvdih;4zwih;2SADpqdvdih;4zwih;2DADpqdvdih;",
    "4zwih;2SHEENpujih;4tmih;4umih;4viih;4REHih;2SEENpREHih;2SADpREHih;2DADpREHih;2TAHpqdvdgh;",
    "4zwgh;2AINpqdvdgh;4zwgh;2GHAINpqdvdgh;4zwgh;2SEENpqdvdgh;4zwgh;2SHEENpqdvdgh;4zwgh;",
    "2tmpqdvdgh;4zwgh;2ujpqdvdgh;4zwgh;2umpqdvdgh;4zwgh;2SADpqdvdgh;4zwgh;2DADpqdvdgh;4zwgh;",
    "2SHEENpujgh;4tmgh;4umgh;4vigh;4REHgh;2SEENpREHgh;2SADpREHgh;2DADpREHgh;2SHEENpujudh;",
    "4tmudh;4umudh;4viudh;2SEENpHEHudh;2SHEENpHEHudh;2TAHpviudh;2SEENpujvgh;4tmvgh;4umvgh;",
    "2SHEENpujvgh;4tmvgh;4umvgh;2TAHpvivgh;2ZAHpvivgh;2qdpFATHATANgh;5ih;ORNATEjwn;1lwn;",
    "qkuuRAHIMAHU ALLAAH;2RADI ALLAAHU ANH;4ANHAA;4ANHUM;4ANHUMAA;4ANHUNNA;",
    "2SALLALLAAHU ALAYHI WA-AALIH;2ALAYHI AS-SALAAM;2ALAYHIM AS-SALAAM;2ALAYHIMAA AS-SALAAM;",
    "2ALAYHI AS-SALAATU WAS-SALAAM;2QUDDISA SIRRAH;2SALLALLAHU ALAYHI WAAALIHEE WA-SALLAM;",
    "2ALAYHAA AS-SALAAM;2TABAARAKA WA-TAAALAA;2RAHIMAHUM ALLAAH;2TEHpujpviudh;4tmpujgh;7udh;",
    "6viudh;4umpviudh;4vipujudh;6tmudh;6umudh;2ujpviptmgh;7udh;2tmpvipzwgh;6qdvdgh;",
    "2SEENptmpujudh;4ujptmudh;6qdvdgh;4viptmgh;7udh;6ujudh;6vigh;7udh;2SADptmptmgh;7udh;",
    "4vipvigh;2SHEENptmpvigh;7udh;4ujpzwgh;4vipumgh;7udh;6vigh;7udh;2DADptmpqdvdgh;4umpvigh;",
    "7udh;2TAHpviptmgh;7udh;6viudh;6zwgh;2AINpujpvigh;4vipvigh;7udh;6qdvdgh;2GHAINpvipvigh;",
    "6zwgh;6qdvdgh;2FEHpumpvigh;7udh;2QAFpviptmgh;6vigh;2LAMptmpvigh;6zwgh;6qdvdgh;4ujpujudh;",
    "7gh;4umpvigh;7udh;4viptmgh;7udh;2viptmpujudh;6viudh;6zwgh;4ujptmudh;6viudh;4umpujudh;",
    "6viudh;;;4ujpumudh;2HEHpvipujudh;6viudh;2vuptmpviudh;6qdvdgh;4ujpvigh;7udh;6qdvdgh;",
    "4vipzwgh;6qdvdgh;2zwpvipvigh;7udh;2BEHpumpzwgh;2TEHpujpzwgh;6qdvdgh;4umpzwgh;6qdvdgh;",
    "4vipzwgh;6qdvdgh;2ujpvipzwgh;4tmpqdvdgh;4vipqdvdgh;2SEENpumpqdvdgh;2SADptmpzwgh;",
    "2SHEENptmpzwgh;2DADptmpzwgh;2LAMpujpzwgh;4vipzwgh;2zwptmpzwgh;4ujpzwgh;4vipzwgh;",
    "2vipvipzwgh;2QAFpvipzwgh;2vuptmpzwgh;2QAFpviptmudh;2LAMptmpviudh;2AINpvipzwgh;",
    "2KAFpvipzwgh;2vupujptmudh;2vipumpzwgh;2LAMpujpviudh;2KAFpvipvigh;2LAMpujpvigh;2vupujptmgh;",
    "2ujptmpzwgh;2tmpujpzwgh;2vipujpzwgh;2FEHpvipzwgh;2BEHptmpzwgh;2KAFpvipviudh;2AINpujpviudh;",
    "2SADpvipviudh;2SEENpumpzwgh;2vupujpzwgh"]⟩,
  ⟨0xFDCF, ["qkuuSALAAMUHU ALAYNAA"]⟩,
  ⟨0xFDF0, ["qkuuSALLA USED AS KORANICybnih;2QALA USED AS KORANICybnih;2ALLAHih;2AKBARih;",
    "2MOHAMMADih;2SALAMih;2RASOULih;2ALAYHEih;2WASALLAMih;2SALLAih;",
    "2SALLALLAHOU ALAYHE WASALLAM;2JALLAJALALOUHOU;RIALn;qkuuBISMILLAH AR-RAHMAN AR-RAHEEM;",
    "2SUBHAANAHU WA TAAALAA;2AZZA WA JALL;VARIATION SELECTOR-1;1SELECTOR-2;1SELECTOR-3;",
    "1SELECTOR-4;1SELECTOR-5;1SELECTOR-6;1SELECTOR-7;1SELECTOR-8;1SELECTOR-9;1SELECTOR-10;",
    "1SELECTOR-11;1SELECTOR-12;1SELECTOR-13;1SELECTOR-14;1SELECTOR-15;1SELECTOR-16;",
    "PRESENTATIONhFORznrn;4ubrn;5tfyb;4rl;4SEMICOLON;4syve;4wzve;4jzuLENTICULARqx;",
    "4lzuLENTICULAR BRAKCET;4tzELLIPSIS"]⟩,
  ⟨0xFE20, ["rmuujtn;2ltn;1fysjtn;3ltn;1vcjtn;2ltn;1CONJOININGvc;1uujtnd;2ltnd;1ysjtnd;2ltnd;",
    "1vcjtnd;2ltnd;1CONJOININGvcd;1CYRILLIC TITLOjtn;3ltn;PRESENTATIONhFORznzesjLEADER;4EMry;",
    "4ENry;4uzuw;4WAVYuzuw;4jwn;4lwn;4jrvqx;4lrvqx;4jywSHELLqx;4lywSHELLqx;4jquLENTICULARqx;",
    "4lquLENTICULARqx;4jfqhqx;4lfqhqx;4jqhqx;4lqhqx;4jrrqx;4lrrqx;4jzurrqx;4lzurrqx;SESAMEsj;",
    "zuSESAMEsj;PRESENTATIONhFORznjxyqx;4lxyqx;DASHED OVERLINE;CENTRELINE OVERLINE;",
    "WAVY OVERLINE;fWAVY OVERLINE;DASHEDuzuw;CENTRELINEuzuw;WAVYuzuw;orn;1ubrn;1tfyb;;",
    "1SEMICOLON;1rl;1wzve;1syve;1EMry;1jwn;1lwn;1jrvqx;1lrvqx;1jywSHELLqx;1lywSHELLqx;1vxn;",
    "1AMPERSAND;1qp;1wqn;1HYPHEN-MINUS;1utn;1tin;1svn;;1xexw;1DOLLARn;1PERCENTn;1COMMERCIAL AT"]⟩,
  ⟨0xFE70, ["qkFATHATANih;1TATWEELpFATHATANa;1DAMMATANih;1ykFRAGMENT;1KASRATANih;;1FATHAih;",
    "2vgh;1DAMMAih;2vgh;1KASRAih;2vgh;1SHADDAih;2vgh;1SUKUNih;2vgh;1ktoih;2qdpMADDAaih;6gh;",
    "4toaih;6gh;2WAWptoaih;6gh;2qdptodih;6gh;2zwptoaih;6gh;6udh;6vgh;2qdih;3gh;2BEHih;3gh;3udh;",
    "3vgh;2TEH MARBUTAih;4gh;3ih;3gh;3udh;3vgh;2THEHih;3gh;3udh;3vgh;2ujih;3gh;3udh;3vgh;2tmih;",
    "3gh;3udh;3vgh;2umih;3gh;3udh;3vgh;2DALih;3gh;2THALih;3gh;2REHih;3gh;2ZAINih;3gh;2SEENih;",
    "3gh;3udh;3vgh;2SHEENih;3gh;3udh;3vgh;2SADih;3gh;3udh;3vgh;2DADih;3gh;3udh;3vgh;2TAHih;3gh;",
    "3udh;3vgh;2ZAHih;3gh;3udh;3vgh;2AINih;3gh;3udh;3vgh;2GHAINih;3gh;3udh;3vgh;2FEHih;3gh;",
    "3udh;3vgh;2QAFih;3gh;3udh;3vgh;2KAFih;3gh;3udh;3vgh;2LAMih;3gh;3udh;3vgh;2viih;3gh;3udh;",
    "3vgh;2vuih;3gh;3udh;3vgh;2HEHih;3gh;3udh;3vgh;2WAWih;3gh;2qdvdih;4gh;2zwih;3gh;3udh;3vgh;",
    "1uuLAMpqdpMADDAaih;8gh;6toaih;8gh;7dih;8gh;5ih;5gh;;;zzWIDTH NO-BREAK SPACE;;",
    "FULLWIDTHsyve;1xave;1vxn;1DOLLARn;1PERCENTn;1AMPERSAND;1APOSTROPHE;1jwn;1lwn;1qp;1wqn;1rn;",
    "1HYPHEN-MINUS;1tfyb;1xw;1shzz;2wd;2ze;2yq;2td;2tc;2xu;2xo;2sr;2vs;1rl;1SEMICOLON;1utn;",
    "1svn;1tin;1wzve;1COMMERCIAL AT;1uqekA;4B;4C;4D;4E;4F;4G;4H;4I;4J;4K;4L;4M;4N;4O;4P;4Q;4R;",
    "4S;4T;4U;4V;4W;4X;4Y;4Z;1jxyqx;1xexw;1lxyqx;1riqb;1uzuw;1thqb;1uqokA;4B;4C;4D;4E;4F;4G;4H;",
    "4I;4J;4K;4L;4M;4N;4O;4P;4Q;4R;4S;4T;4U;4V;4W;4X;4Y;4Z;1jrvqx;1znuw;1lrvqx;1ys;1jzuwn;",
    "1lzuwn;HALFWIDTHubtfyb;1jrrqx;1lrrqx;1ubrn;1KATAKANAvjsj;2kWO;3oA;4I;4U;4E;4O;4zv;4YU;4YO;",
    "4TU;1KATAKANA-HIRAGANA PROLONGED SOUNDve;1KATAKANAkA;3I;3U;3E;3O;3uk;3KI;3KU;3KE;3KO;3xj;",
    "3SI;3SU;3SE;3SO;3yj;3TI;3TU;3TE;3yu;3vo;3NI;3NU;3NE;3NO;3tl;3HI;3HU;3HE;3HO;3vb;3MI;3MU;",
    "3ME;3MO;3zv;3YU;3YO;3xb;3RI;3RU;3RE;3RO;3WA;3N;2VOICED SOUNDve;2SEMI-VOICED SOUNDve;",
    "1HANGUL FILLER;2kKIYEOK;3SSANGKIYEOK;3KIYEOK-SIOS;3NIEUN;3NIEUN-CIEUC;3NIEUN-HIEUH;",
    "3TIKEUT;3SSANGTIKEUT;3RIEUL;3RIEUL-KIYEOK;3RIEUL-MIEUM;3RIEUL-PIEUP;3RIEUL-SIOS;",
    "3RIEUL-THIEUTH;3RIEUL-PHIEUPH;3RIEUL-HIEUH;3MIEUM;3PIEUP;3SSANGPIEUP;3PIEUP-SIOS;3SIOS;",
    "3SSANGSIOS;3IEUNG;3CIEUC;3SSANGCIEUC;3CHIEUCH;3KHIEUKH;3THIEUTH;3PHIEUPH;3HIEUH"]⟩,
  ⟨0xFFC2, ["HALFWIDTH HANGULkA;3AE;3zv;3YAE;3EO;3E;;;3YEO;3YE;3O;3WA;3WAE;3OE;;;3YO;3U;3WEO;",
    "3WE;3WI;3YU;;;3EU;3YI;3I"]⟩,
  ⟨0xFFE0, ["FULLWIDTH CENTn;1POUNDn;1vwn;1vc;1BROKENqr;1YENn;1WONn;;HALFWIDTH FORMSuvzn;1usc;",
    "1zkc;1mc;1spc;1quxy;1zurg"]⟩,
  ⟨0xFFF9, ["INTERLINEAR ANNOTATION ANCHOR;2xn;2TERMINATOR;OBJECT REPLACEMENT CHARACTER;",
    "REPLACEMENT CHARACTER;;;LINEAR ByhB008 A;3B038 E;3B028 I;3B061 O;3B010 U;3B001 DA;",
    "3B045 DE;3B007 DI;3B014 DO;3B051 DU;3B057 JA;3B046 JE;;3B036 JO;3B065 JU;3B077uk;3B044 KE;",
    "3B067 KI;3B070 KO;3B081 KU;3B080vb;3B013 ME;3B073 MI;3B015 MO;3B023 MU;3B006vo;3B024 NE;",
    "3B030 NI;3B052 NO;3B055 NU;3B003wl;3B072 PE;3B039 PI;3B011 PO;3B050 PU;3B016 QA;3B078 QE;",
    "3B021 QI;3B032 QO;;3B060xb;3B027 RE;3B053 RI;3B002 RO;3B026 RU;3B031xj;3B009 SE;3B041 SI;",
    "3B012 SO;3B058 SU;3B059yj;3B004 TE;3B037 TI;3B005yu;3B069 TU;3B054 WA;3B075 WE;3B040 WI;",
    "3B042 WO;;3B017 ZA;3B074 ZE;;3B020 ZO;3B025 A2;3B043 A3;3B085 AU;3B071 DWE;3B090 DWO;",
    "3B048 NWA;3B029 PU2;3B062 PTE;3B076 RA2;3B033 RA3;3B068 RO2;3B066 TA2;3B087 TWE;3B091ze;;;",
    "2yiB018;3B019;3B022;3B034;3B047;3B049;3B056;3B063;3B064;3B079;3B082;3B083;3B086;3B089"]⟩,
  ⟨0x10080, ["LINEAR B IDEOGRAM B100 MAN;3B102 WOMAN;3B104 DEER;3B105 EQUID;3B105F MARE;",
    "3B105M STALLION;3B106F EWE;3B106M RAM;3B107F SHE-GOAT;3B107M HE-GOAT;3B108F SOW;",
    "3B108M BOAR;3B109F COW;3B109M BULL;3B120 WHEAT;3B121 BARLEY;3B122 OLIVE;3B123 SPICE;",
    "3B125 CYPERUS;2MONOGRAM B127 KAPO;3B128 KANAKO;2IDEOGRAM B130 OIL;3B131 WINE;3B132;",
    "2MONOGRAM B133 AREPA;3B135 MERI;2IDEOGRAM B140 BRONZE;3B141 GOLD;3B142;3B145 WOOL;3B146;",
    "3B150;3B151 HORN;3B152;3B153;3B154;2MONOGRAM B156 TURO2;2IDEOGRAM B157;3B158;3B159 CLOTH;",
    "3B160;3B161;3B162 GARMENT;3B163 ARMOUR;3B164;3B165;3B166;3B167;3B168;3B169;3B170;3B171;",
    "3B172;3B173 MONTH;3B174;3B176 TREE;3B177;3B178;3B179;3B180;3B181;3B182;3B183;3B184;3B185;",
    "3B189;3B190;3B191 HELMET;3B220 FOOTSTOOL;3B225 BATHTUB;3B230 SPEAR;3B231c;3B232;",
    "3B233 SWORD;3B234;3B236;3B240 WHEELED CHARIOT;3B241 CHARIOT;3B242 CHARIOT FRAME;",
    "3B243 WHEEL;3B245;3B246;2MONOGRAM B247 DIPTE;2IDEOGRAM B248;3B249;3B251;3B252;3B253;",
    "3B254 DART;3B255;3B256;3B257;3B258;3B259;3VESSEL B155;4B200;4B201;4B202;4B203;4B204;4B205;",
    "4B206;4B207;4B208;4B209;4B210;4B211;4B212;4B213;4B214;4B215;4B216;4B217;4B218;4B219;4B221;",
    "4B222;4B226;4B227;4B228;4B229;4B250;4B305"]⟩,
  ⟨0x10100, ["AEGEAN WORDxnuw;3sj;1CHECKve"]⟩,
  ⟨0x10107, ["AEGEANvxwd;2ze;2yq;2td;2tc;2xu;2xo;2sr;2vs;2yl;2zd;2yo;2FORTY;2ta;2SIXTY;2xp;",
    "2EIGHTY;2vt;2wdua;2zeua;2yqua;2tdua;2tcua;2xuua;2xoua;2srua;2vsua;2wdyp;2zeyp;2yqyp;2tdyp;",
    "2tcyp;2xuyp;2xoyp;2sryp;2vsyp;2ylyp;2zdyp;2yoyp;2FORTYyp;2tayp;2SIXTYyp;2xpyp;2EIGHTYyp;",
    "2vtyp"]⟩,
  ⟨0x10137, ["AEGEAN WEIGHT BASE UNIT;2FIRST SUBUNIT;2SECOND SUBUNIT;2THIRD SUBUNIT;",
    "2FOURTH SUBUNIT;1DRY MEASURE FIRST SUBUNIT;1LIQUID MEASURE FIRST SUBUNIT;",
    "1MEASURE SECOND SUBUNIT;2THIRD SUBUNIT;tjACROPHONIC ATTICwdwx;4tn;4DRACHMA;3tc;3ta;3tcua;",
    "4yp;3tayp;3tcTALENTS;3ylTALENTS;3taTALENTS;3wduaTALENTS;3tcuaTALENTS;3wdypTALENTS;",
    "3tcypTALENTS;4STATERS;3ylSTATERS;3taSTATERS;3wduaSTATERS;3tcuaSTATERS;3wdypSTATERS;",
    "3ylypSTATERS;3taypSTATERS;3ylMNAS;2HERAEUMwdPLETHRON;2THESPIANwd;2HERMIONIANwd;",
    "2EPIDAUREANze;2THESPIANze;2CYRENAICzeDRACHMAS;2EPIDAUREANzeDRACHMAS;2TROEZENIANtc;3yl;",
    "4qfh;2HERMIONIANyl;2MESSENIANyl;2THESPIANyl;3yo;2TROEZENIANta;4qfh;2HERMIONIANta;",
    "2THESPIANta;3wdua;3yqua;2EPIDAUREANtcua;2TROEZENIANtcua;2THESPIANtcua;2CARYSTIANtcua;",
    "2NAXIANtcua;2THESPIANwdyp;3tcyp;2DELPHICtcMNAS;2STRATIANtaMNAS;1wdtnn;4qfh;1zeTHIRDSn;",
    "1yqwyn;1YEARn;1TALENTn;1DRACHMAn;1OBOLn;1zeOBOLSn;1yqOBOLSn;1tdOBOLSn;1tcOBOLSn;",
    "1METRETESn;1KYATHOS BASEn;1LITRAn;1OUNKIAn;1XESTESn;1ARTABEn;1AROURAn;1GRAMMAn;",
    "1TRYBLION BASEn;1zzn;1wdwxn;1SINUSOIDn;1INDICTIONn;NOMISMAn;;ROMAN SEXTANSn;1UNCIAn;",
    "1SEMUNCIAn;1SEXTULAn;1DIMIDIA SEXTULAn;1SILIQUAn;1DENARIUSn;1QUINARIUSn;1SESTERTIUSn;",
    "1DUPONDIUSn;1ASn;1CENTURIALn;ASCIAyi"]⟩,
  ⟨0x101A0, ["tjyiTAU RHO"]⟩,
  ⟨0x101D0, ["PHAISTOS DISCnPEDESTRIAN;3PLUMED HEAD;3TATTOOED HEAD;3CAPTIVE;3CHILD;3WOMAN;",
    "3HELMET;3GAUNTLET;3TIARA;3c;3BOW;3SHIELD;3CLUB;3MANACLES;3MATTOCK;3SAW;3LID;3BOOMERANG;",
    "3CARPENTRY PLANE;3DOLIUM;3COMB;3SLING;3COLUMN;3BEEHIVE;3SHIP;3HORN;3HIDE;3BULLS LEG;3CAT;",
    "3RAM;3EAGLE;3DOVE;3TUNNY;3BEE;3PLANE TREE;3VINE;3PAPYRUS;3ROSETTE;3LILY;3OX BACK;3FLUTE;",
    "3GRATER;3STRAINER;3oAXE;3WAVY BAND;3rmOBLIQUEyd"]⟩,
  ⟨0x10280, ["LYCIANkA;2E;2B;2BH;2G;2D;2I;2W;2Z;2TH;2J;2K;2Q;2L;2M;2N;2MM;2NN;2U;2P;2KK;2R;2S;",
    "2T;2TT;2AN;2EN;2H;2X"]⟩,
  ⟨0x102A0, ["CARIANkA;2P2;2D;2L;2UUU;2R;2LD;2A2;2Q;2B;2M;2O;2D2;2T;2SH;2SH2;2S;2C-18;2U;2NN;",
    "2X;2N;2TT2;2P;2SS;2I;2E;2UUUU;2K;2K2;2ND;2UU;2G;2G2;2ST;2ST2;2NG;2II;2C-39;2TT;2UUU2;2RR;",
    "2MB;2MB2;2MB3;2MB4;2LD2;2E2;2UUU3"]⟩,
  ⟨0x102E0, ["rqEPACT THOUSANDSve;2shwd;3ze;3yq;3td;3tc;3xu;3xo;3sr;3vs;2vxyl;3zd;3yo;3FORTY;",
    "3ta;3SIXTY;3xp;3EIGHTY;3vt;3wdua;3zeua;3yqua;3tdua;3tcua;3xuua;3xoua;3srua;3vsua"]⟩,
  ⟨0x10300, ["waITALICkA;3BE;3KE;3DE;3E;3VE;3ZE;3HE;3THE;3I;3uk;3EL;3EM;3EN;3ESH;3O;3PE;3SHE;",
    "3KU;3ER;3ES;3TE;3U;3EKS;3PHE;3KHE;3EF;3ERS;3CHE;3II;3UU;3ESS;2NUMERALwd;3tc;3yl;3ta"]⟩,
  ⟨0x1032D, ["waITALICkYE;3NORTHERN TSE;3SOUTHERN TSE;GOTHICkAHSA;2BAIRKAN;2GIBA;2DAGS;2AIHVUS;",
    "2QAIRTHRA;2IUJA;2HAGL;2THIUTH;2EIS;2KUSMA;2LAGUS;2MANNA;2NAUTHS;2JER;2URUS;2PAIRTHRA;2vt;",
    "2RAIDA;2SAUIL;2TEIWS;2WINJA;2FAIHU;2IGGWS;2HWAIR;2OTHAL;2vsua"]⟩,
  ⟨0x10350, ["waPERMICkAN;3BUR;3GAI;3DOI;3E;3ZHOI;3DZHOI;3ZATA;3DZITA;3I;3KOKE;3LEI;3MENOE;",
    "3NENOE;3VOOI;3PEEI;3REI;3SII;3TAI;3U;3CHERY;3SHOOI;3SHCHOOI;3YRY;3YERU;3O;3OO;3EF;3tl;",
    "3TSIU;3VER;3YER;3YERI;3YAT;3IE;3YU;3zv;3IA;rmwaPERMICkAN;4DOI;4ZATA;4NENOE;4SII"]⟩,
  ⟨0x10380, ["UGARITICkALPA;2BETA;2GAMLA;2ul;2DELTA;2HO;2WO;2ZETA;2HOTA;2TET;2YOD;2KAF;2SHIN;",
    "2LAMDA;2MEM;2DHAL;2NUN;2ZU;2SAMKA;2AIN;2PU;2SADE;2QOPA;2RASHA;2THANNA;2GHAIN;2yu;2I;2U;",
    "2SSU;;1WORD DIVIDER;waPERSIANnA;3I;3U;3uk;3KU;3GA;3GU;3XA;3CA;3JA;3JI;3yj;3TU;3DA;3DI;3DU;",
    "3yn;3wl;3BA;3FA;3vo;3NU;3vb;3MI;3MU;3zv;3VA;3VI;3xb;3RU;3uo;3xj;3ZA;3xq;3SSA;3tl"]⟩,
  ⟨0x103C8, ["waPERSIANnAURAMAZDAA;3AURAMAZDAA-2;3AURAMAZDAAHA;3XSHAAYATHIYA;3DAHYAAUSH;",
    "3DAHYAAUSH-2;3BAGA;3BUUMISH;2WORD DIVIDER;2vxwd;3ze;3yl;3zd;3ua"]⟩,
  ⟨0x10400, ["DESERETekuyI;4E;4A;4AH;4O;4OO;3xrI;4E;4A;4AH;4O;4OO;3AY;3OW;3WU;3YEE;3H;3PEE;",
    "3BEE;3TEE;3DEE;3CHEE;3JEE;3KAY;3GAY;3EF;3VEE;3ETH;3THEE;3ES;3ZEE;3ESH;3ZHEE;3ER;3EL;3EM;",
    "3EN;3ENG;3OI;3EW;1okuyI;4E;4A;4AH;4O;4OO;3xrI;4E;4A;4AH;4O;4OO;3AY;3OW;3WU;3YEE;3H;3PEE;",
    "3BEE;3TEE;3DEE;3CHEE;3JEE;3KAY;3GAY;3EF;3VEE;3ETH;3THEE;3ES;3ZEE;3ESH;3ZHEE;3ER;3EL;3EM;",
    "3EN;3ENG;3OI;3EW;SHAVIANkPEEP;2TOT;2KICK;2FEE;2THIGH;2SO;2SURE;2CHURCH;2YEA;2HUNG;2BIB;",
    "2DEAD;2GAG;2VOW;2THEY;2ZOO;2MEASURE;2JUDGE;2WOE;2HA-HA;2LOLL;2MIME;2IF;2EGG;2ASH;2ADO;2ON;",
    "2WOOL;2OUT;2AH;2ROAR;2NUN;2EAT;2AGE;2ICE;2zg;2OAK;2OOZE;2OIL;2AWE;2ARE;2OR;2AIR;2ERR;",
    "2ARRAY;2EAR;2IAN;2YEW;OSMANYAkqd;2BA;2yj;2JA;2XA;2ul;2DEEL;2xb;2xj;2SHIIN;2DHA;2CAYN;2GA;",
    "2FA;2QAAF;2KAAF;2LAAN;2MIIN;2NUUN;2WAW;2tl;2zv;2A;2E;2I;2O;2U;2AA;2EE;2OO;;;1shzz;2wd;2ze;",
    "2yq;2td;2tc;2xu;2xo;2sr;2vs"]⟩,
  ⟨0x104B0, ["OSAGEekA;3AI;3AIN;3AH;3BRA;3re;3EHCHA;3E;3EIN;3tl;3HYA;3I;3uk;3EHKA;3KYA;3uo;3vb;",
    "3vo;3O;3OIN;3wl;3EHPA;3xj;3xq;3yj;3EHTA;3TSA;3EHTSA;3TSHA;3DHA;3U;3WA;3ul;3GHA;3ZA;3ZHA"]⟩,
  ⟨0x104D8, ["OSAGEokA;3AI;3AIN;3AH;3BRA;3re;3EHCHA;3E;3EIN;3tl;3HYA;3I;3uk;3EHKA;3KYA;3uo;3vb;",
    "3vo;3O;3OIN;3wl;3EHPA;3xj;3xq;3yj;3EHTA;3TSA;3EHTSA;3TSHA;3DHA;3U;3WA;3ul;3GHA;3ZA;3ZHA"]⟩,
  ⟨0x10500, ["ELBASANkA;2BE;2CE;2CHE;2DE;2NDE;2DHE;2EI;2E;2FE;2GE;2GJE;2HE;2I;2JE;2KE;2LE;2LLE;",
    "2ME;2NE;2vo;2NJE;2O;2PE;2QE;2RE;2RRE;2SE;2SHE;2TE;2THE;2U;2VE;2XE;2Y;2ZE;2ZHE;2GHE;",
    "2GHAMMA;2KHE"]⟩,
  ⟨0x10530, ["CAUCASIAN ALBANIANkALT;3BET;3GIM;3DAT;3EB;3ZARL;3EYN;3ZHIL;3TAS;3re;3YOWD;3ZHA;",
    "3IRB;3xq;3LAN;3INYA;3XEYN;3DYAN;3CAR;3JHOX;3KAR;3LYIT;3HEYT;3QAY;3AOR;3CHOY;3CHI;3CYAY;",
    "3MAQ;3QAR;3NOWC;3DZYAY;3SHAK;3JAYN;3ON;3TYAY;3FAM;3DZAY;3CHAT;3PEN;3GHEYS;3RAT;3SEYK;",
    "3VEYZ;3TIWR;3SHOY;3IWN;3CYAW;3CAYN;3YAYD;3PIWR;3KIW"]⟩,
  ⟨0x1056F, ["CAUCASIAN ALBANIAN CITATIONve;VITHKUQIekA;3BBE;3BE;3CE;3CHE;3DE;3DHE;3EI;3E;3FE;",
    "3GA;;3tl;3HHA;3I;3IJE;3JE;3uk;3uo;3LLA;3ME;3NE;3NJE;3O;3PE;3QA;3RE;;3SE;3SHE;3TE;3THE;3U;",
    "3VE;3XE;;3Y;3ZE;;1okA;3BBE;3BE;3CE;3CHE;3DE;3DHE;3EI;3E;3FE;3GA;;3tl;3HHA;3I;3IJE;3JE;3uk;",
    "3uo;3LLA;3ME;3NE;3NJE;3O;3PE;3QA;3RE;;3SE;3SHE;3TE;3THE;3U;3VE;3XE;;3Y;3ZE"]⟩,
  ⟨0x10600, ["LINEAR AnAB001;3AB002;3AB003;3AB004;3AB005;3AB006;3AB007;3AB008;3AB009;3AB010;",
    "3AB011;3AB013;3AB016;3AB017;3AB020;3AB021;3AB021F;3AB021M;3AB022;3AB022F;3AB022M;3AB023;",
    "3AB023M;3AB024;3AB026;3AB027;3AB028;3A028B;3AB029;3AB030;3AB031;3AB034;3AB037;3AB038;",
    "3AB039;3AB040;3AB041;3AB044;3AB045;3AB046;3AB047;3AB048;3AB049;3AB050;3AB051;3AB053;",
    "3AB054;3AB055;3AB056;3AB057;3AB058;3AB059;3AB060;3AB061;3AB065;3AB066;3AB067;3AB069;",
    "3AB070;3AB073;3AB074;3AB076;3AB077;3AB078;3AB079;3AB080;3AB081;3AB082;3AB085;3AB086;",
    "3AB087;3A100-102;3AB118;3AB120;3A120B;3AB122;3AB123;3AB131A;3AB131B;3A131C;3AB164;3AB171;",
    "3AB180;3AB188;3AB191;3A301;3A302;3A303;3A304;3A305;3A306;3A307;3A308;3A309A;3A309B;3A309C;",
    "3A310;3A311;3A312;3A313A;3A313B;3A313C;3A314;3A315;3A316;3A317;3A318;3A319;3A320;3A321;",
    "3A322;3A323;3A324;3A325;3A326;3A327;3A328;3A329;3A330;3A331;3A332;3A333;3A334;3A335;3A336;",
    "3A337;3A338;3A339;3A340;3A341;3A342;3A343;3A344;3A345;3A346;3A347;3A348;3A349;3A350;3A351;",
    "3A352;3A353;3A354;3A355;3A356;3A357;3A358;3A359;3A360;3A361;3A362;3A363;3A364;3A365;3A366;",
    "3A367;3A368;3A369;3A370;3A371;3A400-VAS;3A401-VAS;3A402-VAS;3A403-VAS;3A404-VAS;3A405-VAS;",
    "3A406-VAS;3A407-VAS;3A408-VAS;3A409-VAS;3A410-VAS;3A411-VAS;3A412-VAS;3A413-VAS;3A414-VAS;",
    "3A415-VAS;3A416-VAS;3A417-VAS;3A418-VAS;3A501;3A502;3A503;3A504;3A505;3A506;3A508;3A509;",
    "3A510;3A511;3A512;3A513;3A515;3A516;3A520;3A521;3A523;3A524;3A525;3A526;3A527;3A528;3A529;",
    "3A530;3A531;3A532;3A534;3A535;3A536;3A537;3A538;3A539;3A540;3A541;3A542;3A545;3A547;3A548;",
    "3A549;3A550;3A551;3A552;3A553;3A554;3A555;3A556;3A557;3A559;3A563;3A564;3A565;3A566;3A568;",
    "3A569;3A570;3A571;3A572;3A573;3A574;3A575;3A576;3A577;3A578;3A579;3A580;3A581;3A582;3A583;",
    "3A584;3A585;3A586;3A587;3A588;3A589;3A591;3A592;3A594;3A595;3A596;3A598;3A600;3A601;3A602;",
    "3A603;3A604;3A606;3A608;3A609;3A610;3A611;3A612;3A613;3A614;3A615;3A616;3A617;3A618;3A619;",
    "3A620;3A621;3A622;3A623;3A624;3A626;3A627;3A628;3A629;3A634;3A637;3A638;3A640;3A642;3A643;",
    "3A644;3A645;3A646;3A648;3A649;3A651;3A652;3A653;3A654;3A655;3A656;3A657;3A658;3A659;3A660;",
    "3A661;3A662;3A663;3A664"]⟩,
  ⟨0x10740, ["LINEAR AnA701 A;3A702 B;3A703 D;3A704 E;3A705 F;3A706 H;3A707 J;3A708 K;3A709 L;",
    "3A709-2 L2;3A709-3 L3;3A709-4 L4;3A709-6 L6;3A710 W;3A711 X;3A712 Y;3A713wb;3A714 ABB;",
    "3A715 BB;3A717 DD;3A726 EYYY;3A732 JE"]⟩,
  ⟨0x10760, ["LINEAR AnA800;3A801;3A802;3A803;3A804;3A805;3A806;3A807"]⟩,
  ⟨0x10780, ["vkkoeAA;2yfyzrl;3tnyzrl;2oAE;3eB;3Bpty;;3DZsi;5pxdty;6CURL;3DEZHsi;3Dpyk;5ty;",
    "6byk;3xfE;3rkxfweE;3FENGsi;3RAMS HORN;3eG;3Gpty;3eGpty;3Hpyd;3eH;3HENGpty;",
    "3DOTLESS Jpydbty;3LSsi;3LZsi;3LpBELT;3eLpBELT;3LpxdtybBELT;3LEZH;4pxdty;3zcY;5pBELT;3Opyd;",
    "3eOE;3rkwb;3Q;3zcRpuyLEG;8bxdty;3Rpyk;5FISHHOOK;3eR;3TCsipCURL;3TSsi;5pxdty;3TESHsi;",
    "3Tpxdty;3Vplty;;3eY;2tgybpyd;2xftgybpyd;2BILABIAL CLICK;2DENTAL CLICK;2LATERAL CLICK;",
    "2ALVEOLAR CLICK;2xdCLICKpxdty;2oSpCURL"]⟩,
  ⟨0x10800, ["CYPRIOTyhA;2E;2I;2O;2U;2JA;;;2JO;;2uk;2KE;2KI;2KO;2KU;2uo;2LE;2LI;2LO;2LU;2vb;",
    "2ME;2MI;2MO;2MU;2vo;2NE;2NI;2NO;2NU;2wl;2PE;2PI;2PO;2PU;2xb;2RE;2RI;2RO;2RU;2xj;2SE;2SI;",
    "2SO;2SU;2yj;2TE;2TI;2yu;2TU;2WA;2WE;2WI;2WO;;2XA;2XE"]⟩,
  ⟨0x1083C, ["CYPRIOTyhZA;;;2ZO;IMPERIAL ARAMAICkALEPH;3BETH;3GIMEL;3DALETH;3HE;3WAW;3ZAYIN;",
    "3HETH;3TETH;3YODH;3KAPH;3LAMEDH;3MEM;3NUN;3SAMEKH;3AYIN;3PE;3SADHE;3QOPH;3RESH;3SHIN;3TAW;",
    ";2xmn;2vxwd;3ze;3yq;3yl;3zd;3wdua;4yp;3ylyp;PALMYRENEkALEPH;2BETH;2GIMEL;2DALETH;2HE;2WAW;",
    "2ZAYIN;2HETH;2TETH;2YODH;2KAPH;2LAMEDH;2MEM;2gNUN;2NUN;2SAMEKH;2AYIN;2PE;2SADHE;2QOPH;",
    "2RESH;2SHIN;2TAW;1urFLEURON;1xgFLEURON;1vxwd;2ze;2yq;2td;2tc;2yl;2zd;NABATAEANkgALEPH;",
    "2ALEPH;2gBETH;2BETH;2GIMEL;2DALETH;2gHE;2HE;2WAW;2ZAYIN;2HETH;2TETH;2gYODH;2YODH;2gKAPH;",
    "2KAPH;2gLAMEDH;2LAMEDH;2gMEM;2MEM;2gNUN;2NUN;2SAMEKH;2AYIN;2PE;2SADHE;2QOPH;2RESH;2gSHIN;",
    "2SHIN;2TAW"]⟩,
  ⟨0x108A7, ["NABATAEANvxwd;2ze;2yq;2td;1CRUCIFORMvxtd;1vxtc;2yl;2zd;2wdua"]⟩,
  ⟨0x108E0, ["HATRANkALEPH;2BETH;2GIMEL;2DALETH-RESH;2HE;2WAW;2ZAYN;2HETH;2TETH;2YODH;2KAPH;",
    "2LAMEDH;2MEM;2NUN;2SAMEKH;2AYN;2PE;2SADHE;2QOPH;;2SHIN;2TAW"]⟩,
  ⟨0x108FB, ["HATRANvxwd;2tc;2yl;2zd;2wdua;PHOENICIANkALF;2BET;2GAML;2DELT;2HE;2WAU;2ZAI;2HET;",
    "2TET;2YOD;2KAF;2LAMD;2MEM;2NUN;2SEMK;2AIN;2PE;2SADE;2QOF;2ROSH;2SHIN;2TAU;1vxwd;2yl;2zd;",
    "2wdua;2ze;2yq"]⟩,
  ⟨0x1091F, ["PHOENICIAN WORDxn;LYDIANkA;2B;2G;2D;2E;2V;2I;2Y;2K;2L;2M;2N;2O;2R;2SS;2T;2U;2F;",
    "2Q;2S;2TT;2AN;2EN;2LY;2NN;2C"]⟩,
  ⟨0x1093F, ["LYDIANyzve"]⟩,
  ⟨0x10980, ["MEROITIC HIEROGLYPHICkA;3E;3I;3O;3zv;3WA;3BA;3BA-2;3wl;3vb;3vo;3NA-2;3NE;3NE-2;",
    "3xb;3RA-2;3uo;3ul;3HHA;3xj;3SA-2;3SE;3uk;3QA;3yj;3TA-2;3TE;3TE-2;3yu;3DA;2yiVIDJ;3VIDJ-2;",
    "1CURSIVEkA;3E;3I;3O;3zv;3WA;3BA;3wl;3vb;3vo;3NE;3xb;3uo;3ul;3HHA;3xj;3qmxj;3SE;3uk;3QA;",
    "3yj;3TE;3yu;3DA"]⟩,
  ⟨0x109BC, ["MEROITIC CURSIVEteELEVEN TWELFTHS;3wdtn;2LOGOGRAM RMT;3IMN;2vxwd;3ze;3yq;3td;3tc;",
    "3xu;3xo;3sr;3vs;3yl;3zd;3yo;3FORTY;3ta;3SIXTY;3xp;;;3wdua;3zeua;3yqua;3tdua;3tcua;3xuua;",
    "3xoua;3srua;3vsua;3wdyp;3zeyp;3yqyp;3tdyp;3tcyp;3xuyp;3xoyp;3sryp;3vsyp;3ylyp;3zdyp;3yoyp;",
    "3FORTYyp;3tayp;3SIXTYyp;3xpyp;3EIGHTYyp;3vtyp;3wduayp;3zeuayp;3yquayp;3tduayp;3tcuayp;",
    "3xuuayp;3xouayp;3sruayp;3vsuayp;2tewdTWELFTH;3zeTWELFTHS;3yqTWELFTHS;3tdTWELFTHS;",
    "3tcTWELFTHS;3xuTWELFTHS;3xoTWELFTHS;3srTWELFTHS;3vsTWELFTHS;3ylTWELFTHS;KHAROSHTHIkA;",
    "1zrnI;3U;3zqR;;3E;3O"]⟩,
  ⟨0x10A0C, ["KHAROSHTHIzrLENGTHve;1nfxhd;2qj;2zp;1kuk;2ul;2GA;2GHA;;2CA;2re;2JA;;2vy;2TTA;2zb;",
    "2DDA;2sa;2NNA;2yj;2yn;2DA;2DHA;2vo;2wl;2wp;2BA;2BHA;2vb;2zv;2xb;2uo;2VA;2xq;2SSA;2xj;2ZA;",
    "2tl;2KKA;2TTTHA;2TTTA;2VHA;;;1nqra;2CAUDA;2sjd"]⟩,
  ⟨0x10A3F, ["KHAROSHTHIzo;1shwd;2ze;2yq;2td;1vxyl;2zd;2wdua;3yp;1tewdtn"]⟩,
  ⟨0x10A50, ["KHAROSHTHIwvsj;2org;2rg;2CRESCENTqr;2MANGALAM;2LOTUS;2rx;2frx;2LINES"]⟩,
  ⟨0x10A60, ["waxxARABIANkHE;4LAMEDH;4HETH;4MEM;4QOPH;4WAW;4SHIN;4RESH;4BETH;4TAW;4SAT;4KAPH;",
    "4NUN;4KHETH;4SADHE;4SAMEKH;4FE;4qd;4AYN;4DHADHE;4GIMEL;4DALETH;4GHAYN;4TETH;4ZAYN;",
    "4DHALETH;4YODH;4THAW;4THETH;3vxwd;4ta;3NUMERIC INDICATOR;1vvARABIANkHEH;4LAM;4tm;4vi;4QAF;",
    "4WAW;4ES-2;4REH;4BEH;4TEH;4ES-1;4KAF;4vu;4um;4SAD;4ES-3;4FEH;4qd;4AIN;4DAD;4GEEM;4DAL;",
    "4GHAIN;4TAH;4ZAIN;4THAL;4zw;4THEH;4ZAH;3vxwd;4yl;4zd"]⟩,
  ⟨0x10AC0, ["MANICHAEANkALEPH;2BETH;2BHETH;2GIMEL;2GHIMEL;2DALETH;2HE;2WAW;1nUD;1kZAYIN;",
    "2ZHAYIN;2JAYIN;2JHAYIN;2HETH;2TETH;2YODH;2KAPH;2XAPH;2KHAPH;2LAMEDH;2DHAMEDH;2THAMEDH;",
    "2MEM;2NUN;2SAMEKH;2AYIN;2AAYIN;2PE;2FE;2SADHE;2QOPH;2XOPH;2QHOPH;2RESH;2SHIN;2SSHIN;2TAW;",
    "1qavea;3d"]⟩,
  ⟨0x10AEB, ["MANICHAEANvxwd;2tc;2yl;2zd;2wdua;1wvya;2FLEURON;2fsjWITHINsj;2sjWITHINsj;2sj;",
    "2zesk;2uwFILLER"]⟩,
  ⟨0x10B00, ["AVESTANkA;2AA;2AO;2AAO;2AN;2AAN;2AE;2AEE;2E;2EE;2O;2OO;2I;2II;2U;2UU;2KE;2XE;",
    "2XYE;2XVE;2GE;2GGE;2GHE;2CE;2JE;2TE;2THE;2DE;2DHE;2TTE;2PE;2FE;2BE;2BHE;2NGE;2NGYE;2NGVE;",
    "2NE;2NYE;2NNE;2ME;2HME;2YYE;2YE;2VE;2RE;2LE;2SE;2ZE;2SHE;2ZHE;2SHYE;2SSHE;2HE"]⟩,
  ⟨0x10B39, ["AVESTANqave;TINYzeskwiwdsjwv;ozeskwiwdsjwv;upzeskwiwdsjwv;1wdsjwizeskwv;",
    "1zeRINGSwiwdxhwv;1wdxhwizeRINGSwv;INSCRIPTIONAL PARTHIANkALEPH;3BETH;3GIMEL;3DALETH;3HE;",
    "3WAW;3ZAYIN;3HETH;3TETH;3YODH;3KAPH;3LAMEDH;3MEM;3NUN;3SAMEKH;3AYIN;3PE;3SADHE;3QOPH;",
    "3RESH;3SHIN;3TAW;;;2vxwd;3ze;3yq;3td;3yl;3zd;3wdua;4yp;1PAHLAVIkALEPH;3BETH;3GIMEL;",
    "3DALETH;3HE;3WAW-AYIN-RESH;3ZAYIN;3HETH;3TETH;3YODH;3KAPH;3LAMEDH;3MEM-QOPH;3NUN;3SAMEKH;",
    "3PE;3SADHE;3SHIN;3TAW"]⟩,
  ⟨0x10B78, ["INSCRIPTIONAL PAHLAVIvxwd;3ze;3yq;3td;3yl;3zd;3wdua;4yp;PSALTER PAHLAVIkALEPH;",
    "3BETH;3GIMEL;3DALETH;3HE;3WAW-AYIN-RESH;3ZAYIN;3HETH;3YODH;3KAPH;3LAMEDH;3MEM-QOPH;3NUN;",
    "3SAMEKH;3PE;3SADHE;3SHIN;3TAW"]⟩,
  ⟨0x10B99, ["PSALTER PAHLAVIxmve;2zcxmve;2tdskprs;5sj"]⟩,
  ⟨0x10BA9, ["PSALTER PAHLAVIvxwd;3ze;3yq;3td;3yl;3zd;3wdua"]⟩,
  ⟨0x10C00, ["waTURKICkwgA;3zxA;4AE;3wgI;3zxI;4E;3wgO;4OE;3zxOE;3wgAB;3zxAB;3wgAEB;3zxAEB;",
    "3wgAG;3zxAG;3wgAEG;3zxAEG;3wgAD;3zxAD;3wgAED;4EZ;3zxEZ;3wgAY;3zxAY;3wgAEY;3zxAEY;3wgAEK;",
    "3zxAEK;3wgOEK;3zxOEK;3wgAL;3zxAL;3wgAEL;4ELT;4EM;4AN;4AEN;3zxAEN;3wgENT;3zxENT;3wgENC;",
    "3zxENC;3wgENY;3zxENY;4ANG;3wgENG;3zxAENG;3wgEP;4OP;4IC;4EC;3zxEC;3wgAQ;3zxAQ;3wgIQ;3zxIQ;",
    "3wgOQ;3zxOQ;3wgAR;3zxAR;3wgAER;4AS;4AES;4ASH;3zxASH;3wgESH;3zxESH;3wgAT;3zxAT;3wgAET;",
    "3zxAET;3wgOT;4BASH"]⟩,
  ⟨0x10C80, ["waHUNGARIANekA;4AA;4EB;4AMB;4EC;4ENC;4ECS;4ED;4b;4E;4CLOSE E;4EE;4EF;4EG;4EGY;",
    "4EH;4I;4II;4EJ;4EK;4AK;4UNK;4EL;4ELY;4EM;4EN;4ENY;4O;4OO;4NIKOLSBURG OE;4RUDIMENTA OE;",
    "4OEE;4EP;4EMP;4ER;4xrER;4ES;4ESZ;4ET;4ENT;4ETY;4ECH;4U;4UU;4NIKOLSBURG UE;4RUDIMENTA UE;",
    "4EV;4EZ;4EZS;4ENT-SHAPEDn;4US"]⟩,
  ⟨0x10CC0, ["waHUNGARIANokA;4AA;4EB;4AMB;4EC;4ENC;4ECS;4ED;4b;4E;4CLOSE E;4EE;4EF;4EG;4EGY;",
    "4EH;4I;4II;4EJ;4EK;4AK;4UNK;4EL;4ELY;4EM;4EN;4ENY;4O;4OO;4NIKOLSBURG OE;4RUDIMENTA OE;",
    "4OEE;4EP;4EMP;4ER;4xrER;4ES;4ESZ;4ET;4ENT;4ETY;4ECH;4U;4UU;4NIKOLSBURG UE;4RUDIMENTA UE;",
    "4EV;4EZ;4EZS;4ENT-SHAPEDn;4US"]⟩,
  ⟨0x10CFA, ["waHUNGARIANvxwd;3tc;3yl;3ta;3wdua;4yp;HANIFI ROHINGYAkA;3BA;3wl;3yj;3TTA;3JA;3CA;",
    "3tl;3ul;3FA;3DA;3DDA;3xb;3RRA;3ZA;3xj;3xq;3uk;3GA;3uo;3vb;3vo;3WA;3KINNA WA;3zv;3KINNAzv;",
    "3vr;3vy;3VA;2zrA;3I;3U;3E;3O;2veSAKIN;3voKHONNA;2nHARBAHAY;3TAHALA;3TANA;3TASSI"]⟩,
  ⟨0x10D30, ["HANIFI ROHINGYAshzz;3wd;3ze;3yq;3td;3tc;3xu;3xo;3sr;3vs"]⟩,
  ⟨0x10E60, ["RUMIshwd;2ze;2yq;2td;2tc;2xu;2xo;2sr;2vs;1vxyl;2zd;2yo;2FORTY;2ta;2SIXTY;2xp;",
    "2EIGHTY;2vt;2wdua;2zeua;2yqua;2tdua;2tcua;2xuua;2xoua;2srua;2vsua;1tewdtn;3wx;3THIRD;",
    "2zeTHIRDS;;YEZIDIkELIF;2BE;2PE;2PHE;2THE;2SE;2CIM;2CHIM;2CHHIM;2HHA;2XA;2DAL;2ZAL;2xb;",
    "2RHA;2ZA;2JA;2SIN;2SHIN;2SAD;2DAD;2yj;2ZE;2EYN;2XHEYN;2FA;2VA;3qfh;2QAF;2KAF;2KHAF;2GAF;",
    "2LAM;2MIM;2NUN;2UM;2WAW;2OW;2EW;2HAY;2YOT;2ET;;1rmtove;2MADDAve;1HYPHENATIONve;;;",
    "1kLAMpsja;2YOTpria"]⟩,
  ⟨0x10F00, ["waSOGDIANkALEPH;3gALEPH;3BETH;3gBETH;3GIMEL;3HE;3gHE;3WAW;3ZAYIN;3HETH;3YODH;",
    "3KAPH;3LAMEDH;3MEM;3NUN;3gNUN;5pznyk;3SAMEKH;3AYIN;3qfAYIN;3PE;3SADHE;3gSADHE;5pznyk;",
    "3RESH-AYIN-DALETH;3SHIN;3TAW;3gTAW;5pznyk;2vxwd;3ze;3yq;3td;3tc;3yl;3zd;3yo;3wdua;2tewdtn;",
    "2uuAYIN-DALETH"]⟩,
  ⟨0x10F30, ["SOGDIANkALEPH;2BETH;2GIMEL;2HE;2WAW;2ZAYIN;2HETH;2YODH;2KAPH;2LAMEDH;2MEM;2NUN;",
    "2SAMEKH;2AYIN;2PE;2SADHE;2RESH-AYIN;2SHIN;2TAW;2FETH;2LESH;1INDEPENDENT SHIN;1rmsjd;",
    "2zeskd;2sja;2zeska;2CURVEa;3d;2tya;3d;2uytyd;2RESHd;2ydd;1vxwd;2yl;2zd;2wdua;1wvzeznBARS;",
    "5psk;2rgpsj;2zeCIRCLESpsk;2tnrgpsj"]⟩,
  ⟨0x10F70, ["waUYGHURkALEPH;3BETH;3GIMEL-HETH;3WAW;3ZAYIN;3gHETH;3YODH;3KAPH;3LAMEDH;3MEM;",
    "3NUN;3SAMEKH;3PE;3SADHE;3RESH;3SHIN;3TAW;3LESH;2rmsja;4d;3zeska;5d;2wvqr;3zeBARS;4sk;3tdsk"]⟩,
  ⟨0x10FB0, ["CHORASMIANkALEPH;2oALEPH;2BETH;2GIMEL;2DALETH;2HE;2WAW;2CURLED WAW;2ZAYIN;2HETH;",
    "2YODH;2KAPH;2LAMEDH;2MEM;2NUN;2SAMEKH;2AYIN;2PE;2RESH;2SHIN;2TAW;1vxwd;2ze;2yq;2td;2yl;",
    "2zd;2wdua"]⟩,
  ⟨0x10FE0, ["ELYMAICkALEPH;2BETH;2GIMEL;2DALETH;2HE;2WAW;2ZAYIN;2HETH;2TETH;2YODH;2KAPH;",
    "2LAMEDH;2MEM;2NUN;2SAMEKH;2AYIN;2PE;2SADHE;2QOPH;2RESH;2SHIN;2TAW;1uuZAYIN-YODH"]⟩,
  ⟨0x11000, ["BRAHMInra;2qj;2zp;2JIHVAMULIYA;2UPADHMANIYA;1kA;2AA;2I;2II;2U;2UU;2zqR;3RR;3L;",
    "3LL;2E;2AI;2O;2AU;2uk;2ul;2GA;2GHA;2vr;2CA;2re;2JA;2JHA;2vy;2TTA;2zb;2DDA;2sa;2NNA;2yj;",
    "2yn;2DA;2DHA;2vo;2wl;2wp;2BA;2BHA;2vb;2zv;2xb;2uo;2VA;2xq;2SSA;2xj;2tl;2LLA;2waTAMIL LLLA;",
    "4RRA;4NNNA;1zrnAA;3BHATTIPROLU AA;3I;3II;3U;3UU;3zqR;4RR;4L;4LL;3E;3AI;3O;3AU;1zo;1rx;",
    "1frx;1wvsj;2fsj;2uw;2CRESCENTqr;2LOTUS"]⟩,
  ⟨0x11052, ["BRAHMIvxwd;2ze;2yq;2td;2tc;2xu;2xo;2sr;2vs;2yl;2zd;2yo;2FORTY;2ta;2SIXTY;2xp;",
    "2EIGHTY;2vt;2wdua;3yp;1shzz;2wd;2ze;2yq;2td;2tc;2xu;2xo;2sr;2vs;1nwaTAMILzo;1kwaTAMILxrE;",
    "5O;1zrnwaTAMILxrE;6O;1kwaTAMIL LLA"]⟩,
  ⟨0x1107F, ["BRAHMIvxJOINER;KAITHInra;2qj;2zp;1kA;2AA;2I;2II;2U;2UU;2E;2AI;2O;2AU;2uk;2ul;2GA;",
    "2GHA;2vr;2CA;2re;2JA;2JHA;2vy;2TTA;2zb;2DDA;2DDDHA;2sa;2RHA;2NNA;2yj;2yn;2DA;2DHA;2vo;2wl;",
    "2wp;2BA;2BHA;2vb;2zv;2xb;2uo;2VA;2xq;2SSA;2xj;2tl;1zrnAA;3I;3II;3U;3UU;3E;3AI;3O;3AU;1nzo;",
    "2NUKTA;1qan;1ENUMERATIONn;1vxn;1xmve;1fxmve;1rx;1frx;1zrnzqR"]⟩,
  ⟨0x110CD, ["KAITHIvxna;;;SORA SOMPENGkSAH;3TAH;3BAH;3CAH;3DAH;3GAH;3MAH;3NGAH;3LAH;3NAH;3VAH;",
    "3PAH;3YAH;3RAH;3tm;3KAH;3JAH;3NYAH;3AH;3EEH;3IH;3UH;3OH;3EH;3MAE"]⟩,
  ⟨0x110F0, ["SORA SOMPENGshzz;3wd;3ze;3yq;3td;3tc;3xu;3xo;3sr;3vs"]⟩,
  ⟨0x11100, ["CHAKMAnra;2qj;2zp;1kAA;2I;2U;2E;2KAA;2KHAA;2GAA;2GHAA;2NGAA;2CAA;2CHAA;2JAA;",
    "2JHAA;2NYAA;2TTAA;2TTHAA;2DDAA;2DDHAA;2NNAA;2TAA;2THAA;2DAA;2DHAA;2NAA;2PAA;2PHAA;2BAA;",
    "2BHAA;2MAA;2YYAA;2YAA;2RAA;2LAA;2WAA;2SAA;2HAA;1zrnA;3I;3II;3U;3UU;3E;3AI;3O;3AU;3OI;1Ove;",
    "1AUve;1zo;1MAAYYAA;;1shzz;2wd;2ze;2yq;2td;2tc;2xu;2xo;2sr;2vs;1xmve;1rx;1frx;1wzve;1kLHAA;",
    "1zrnAA;3EI;1kVAA"]⟩,
  ⟨0x11150, ["MAHAJANIkA;2I;2U;2E;2O;2uk;2ul;2GA;2GHA;2CA;2re;2JA;2JHA;2vy;2TTA;2zb;2DDA;2sa;",
    "2NNA;2yj;2yn;2DA;2DHA;2vo;2wl;2wp;2BA;2BHA;2vb;2xb;2uo;2VA;2xj;2tl;2RRA;1nNUKTA;1qan;",
    "1xmve;1uuSHRI"]⟩,
  ⟨0x11180, ["SHARADAnra;2qj;2zp;1kA;2AA;2I;2II;2U;2UU;2zqR;3RR;3L;3LL;2E;2AI;2O;2AU;2uk;2ul;",
    "2GA;2GHA;2vr;2CA;2re;2JA;2JHA;2vy;2TTA;2zb;2DDA;2sa;2NNA;2yj;2yn;2DA;2DHA;2vo;2wl;2wp;2BA;",
    "2BHA;2vb;2zv;2xb;2uo;2LLA;2VA;2xq;2SSA;2xj;2tl;1zrnAA;3I;3II;3U;3UU;3zqR;4RR;4L;4LL;3E;",
    "3AI;3O;3AU;1nzo;2qq;2JIHVAMULIYA;2UPADHMANIYA;1OM;1rx;1frx;1qan;1xn;1SANDHIve;1nNUKTA;",
    "1zrvkve;1EXTRAxrzrve;1SUTRAve;1zrnPRISHTHAMATRA E;1nuhra;1shzz;2wd;2ze;2yq;2td;2tc;2xu;",
    "2xo;2sr;2vs;1EKAM;1nSIDDHAM;1HEADSTROKE;1CONTINUATIONn;1xmMARK-1;2MARK-2;;SINHALAqmshwd;",
    "3ze;3yq;3td;3tc;3xu;3xo;3sr;3vs;2vxyl;3zd;3yo;3FORTY;3ta;3SIXTY;3xp;3EIGHTY;3vt;3wdua;4yp"]⟩,
  ⟨0x11200, ["KHOJKIkA;2AA;2I;2U;2E;2AI;2O;2AU;2uk;2ul;2GA;2GGA;2GHA;2vr;2CA;2re;2JA;2JJA;;2vy;",
    "2TTA;2zb;2DDA;2sa;2NNA;2yj;2yn;2DA;2DDDA;2DHA;2vo;2wl;2wp;2BA;2BBA;2BHA;2vb;2zv;2xb;2uo;",
    "2VA;2xj;2tl;2LLA;1zrnAA;3I;3II;3U;3E;3AI;3O;3AU;1nqj;2zo;2NUKTA;2SHADDA;1rx;1frx;1WORDxn;",
    "1xmve;1fxmve;1qan;1nSUKUN"]⟩,
  ⟨0x11280, ["MULTANIkA;2I;2U;2E;2uk;2ul;2GA;;2GHA;;2CA;2re;2JA;2JJA;;2vy;2TTA;2zb;2DDA;2DDDA;",
    "2sa;2NNA;2yj;2yn;2DA;2DHA;2vo;2wl;2wp;2BA;;2BHA;2vb;2zv;2xb;2uo;2VA;2xj;2tl;2RRA;2RHA;",
    "1xmve"]⟩,
  ⟨0x112B0, ["KHUDAWADIkA;2AA;2I;2II;2U;2UU;2E;2AI;2O;2AU;2uk;2ul;2GA;2GGA;2GHA;2vr;2CA;2re;",
    "2JA;2JJA;2JHA;2vy;2TTA;2zb;2DDA;2DDDA;2RRA;2sa;2NNA;2yj;2yn;2DA;2DHA;2vo;2wl;2wp;2BA;2BBA;",
    "2BHA;2vb;2zv;2xb;2uo;2VA;2xq;2xj;2tl;1nqj;1zrnAA;3I;3II;3U;3UU;3E;3AI;3O;3AU;1nNUKTA;2zo"]⟩,
  ⟨0x112F0, ["KHUDAWADIshzz;2wd;2ze;2yq;2td;2tc;2xu;2xo;2sr;2vs"]⟩,
  ⟨0x11300, ["GRANTHAnrmqja;2ra;2qj;2zp;;1kA;2AA;2I;2II;2U;2UU;2zqR;3L;;;2EE;2AI;;;2OO;2AU;2uk;",
    "2ul;2GA;2GHA;2vr;2CA;2re;2JA;2JHA;2vy;2TTA;2zb;2DDA;2sa;2NNA;2yj;2yn;2DA;2DHA;2vo;;2wl;",
    "2wp;2BA;2BHA;2vb;2zv;2xb;;2uo;2LLA;;2VA;2xq;2SSA;2xj;2tl;;rmBINDUd;GRANTHAnNUKTA;2qq;",
    "1zrnAA;3I;3II;3U;3UU;3zqR;4RR;;;3EE;3AI;;;3OO;3AU;1nzo;;;1OM"]⟩,
  ⟨0x11357, ["GRANTHA AU LENGTHve"]⟩,
  ⟨0x1135D, ["GRANTHAnPLUTA;1kVEDICqj;3fqj;2zqRR;3LL;1zrnzqL;4LL;;;rmGRANTHAshzz;3wd;3ze;3yq;",
    "3td;3tc;3xu"]⟩,
  ⟨0x11370, ["rmGRANTHAkA;3uk;3vo;3VI;3wl"]⟩,
  ⟨0x11400, ["NEWAkA;2AA;2I;2II;2U;2UU;2zqR;3RR;3L;3LL;2E;2AI;2O;2AU;2uk;2ul;2GA;2GHA;2vr;",
    "2NGHA;2CA;2re;2JA;2JHA;2vy;2NYHA;2TTA;2zb;2DDA;2sa;2NNA;2yj;2yn;2DA;2DHA;2vo;2NHA;2wl;2wp;",
    "2BA;2BHA;2vb;2MHA;2zv;2xb;2RHA;2uo;2LHA;2WA;2xq;2SSA;2xj;2tl;1zrnAA;3I;3II;3U;3UU;3zqR;",
    "4RR;4L;4LL;3E;3AI;3O;3AU;1nzo;2ra;2qj;2zp;2NUKTA;2qq;2gqj;1OM;1SIDDHI;1rx;1frx;1rn;",
    "1GAP FILLER;1qan;1shzz;2wd;2ze;2yq;2td;2tc;2xu;2xo;2sr;2vs;1frn;1PLACEHOLDERve;;",
    "1INSERTIONn;1SANDHIve;1kVEDICqj;1nJIHVAMULIYA;2UPADHMANIYA"]⟩,
  ⟨0x11480, ["TIRHUTA ANJI;1kA;2AA;2I;2II;2U;2UU;2zqR;3RR;3L;3LL;2E;2AI;2O;2AU;2uk;2ul;2GA;",
    "2GHA;2vr;2CA;2re;2JA;2JHA;2vy;2TTA;2zb;2DDA;2sa;2NNA;2yj;2yn;2DA;2DHA;2vo;2wl;2wp;2BA;",
    "2BHA;2vb;2zv;2xb;2uo;2VA;2xq;2SSA;2xj;2tl;1zrnAA;3I;3II;3U;3UU;3zqR;4RR;4L;4LL;3E;3xrE;",
    "3AI;3O;3xrO;3AU;1nra;2qj;2zp;2zo;2NUKTA;2qq;1GVANG;1qan;1OM"]⟩,
  ⟨0x114D0, ["TIRHUTAshzz;2wd;2ze;2yq;2td;2tc;2xu;2xo;2sr;2vs"]⟩,
  ⟨0x11580, ["SIDDHAMkA;2AA;2I;2II;2U;2UU;2zqR;3RR;3L;3LL;2E;2AI;2O;2AU;2uk;2ul;2GA;2GHA;2vr;",
    "2CA;2re;2JA;2JHA;2vy;2TTA;2zb;2DDA;2sa;2NNA;2yj;2yn;2DA;2DHA;2vo;2wl;2wp;2BA;2BHA;2vb;2zv;",
    "2xb;2uo;2VA;2xq;2SSA;2xj;2tl;1zrnAA;3I;3II;3U;3UU;3zqR;4RR;;;3E;3AI;3O;3AU;1nra;2qj;2zp;",
    "2zo;2NUKTA;2SIDDHAM;1rx;1frx;1xnsj;2qr;1REPETITION MARK-1;2MARK-2;2MARK-3;1ENDvzTEXTve;",
    "1xmvepTRIDENTbU-SHAPED ORNAMENTS;6slCRESCENTS;4RAYSbslCRESCENTS;7fCRESCENTS;7zaCRESCENTS;",
    "3fxh;5pRAYS;3pfCRESCENTS;4zaCRESCENTS;4QUADRUPLE CRESCENTS;4SEPTUPLE CRESCENTS;",
    "4CIRCLESbRAYS;6zeENCLOSURES;6tdENCLOSURES;1kTHREE-CIRCLEqfI;2TWO-CIRCLEqfI;4II;2qfU;",
    "1zrnqfU;4UU"]⟩,
  ⟨0x11600, ["MODIkA;2AA;2I;2II;2U;2UU;2zqR;3RR;3L;3LL;2E;2AI;2O;2AU;2uk;2ul;2GA;2GHA;2vr;2CA;",
    "2re;2JA;2JHA;2vy;2TTA;2zb;2DDA;2sa;2NNA;2yj;2yn;2DA;2DHA;2vo;2wl;2wp;2BA;2BHA;2vb;2zv;2xb;",
    "2uo;2VA;2xq;2SSA;2xj;2tl;2LLA;1zrnAA;3I;3II;3U;3UU;3zqR;4RR;4L;4LL;3E;3AI;3O;3AU;1nqj;2zp;",
    "2zo;2ARDHACANDRA;1rx;1frx;1qan;1nHUVA"]⟩,
  ⟨0x11650, ["MODIshzz;2wd;2ze;2yq;2td;2tc;2xu;2xo;2sr;2vs"]⟩,
  ⟨0x11660, ["MONGOLIAN BIRGApwh;1xiBIRGA;1fBIRGApwh;1zaBIRGApwh;1BIRGApfwh;1xiBIRGApwh;4fwh;",
    "1uhBIRGA;3pfwh;1SWIRL BIRGA;3pwh;4fwh;1zcSWIRL BIRGApfwh"]⟩,
  ⟨0x11680, ["TAKRIkA;2AA;2I;2II;2U;2UU;2E;2AI;2O;2AU;2uk;2ul;2GA;2GHA;2vr;2CA;2re;2JA;2JHA;",
    "2vy;2TTA;2zb;2DDA;2sa;2NNA;2yj;2yn;2DA;2DHA;2vo;2wl;2wp;2BA;2BHA;2vb;2zv;2xb;2uo;2VA;2xq;",
    "2xj;2tl;2RRA;1nqj;2zp;1zrnAA;3I;3II;3U;3UU;3E;3AI;3O;3AU;1nzo;2NUKTA;1kqmul;1qan"]⟩,
  ⟨0x116C0, ["TAKRIshzz;2wd;2ze;2yq;2td;2tc;2xu;2xo;2sr;2vs"]⟩,
  ⟨0x11700, ["AHOMkuk;2ul;2vr;2vo;2yj;2qfyj;2wl;2wp;2BA;2vb;2JA;2re;2yn;2xb;2uo;2xj;2vy;2tl;2A;",
    "2DA;2DHA;2GA;2qfGA;2GHA;2BHA;2JHA;2qfBA;;;1rpnvguo;4xb;4LIGATINGxb;1zrnA;3AA;3I;3II;3U;",
    "3UU;3E;3AW;3O;3AI;3AM;1nKILLER"]⟩,
  ⟨0x11730, ["AHOMshzz;2wd;2ze;2yq;2td;2tc;2xu;2xo;2sr;2vs;1vxyl;2zd;1noxm;2xm;2RULAI;1yiVI;",
    "1kCA;2TTA;2zb;2DDA;2sa;2NNA;2LLA"]⟩,
  ⟨0x11800, ["DOGRAkA;2AA;2I;2II;2U;2UU;2E;2AI;2O;2AU;2uk;2ul;2GA;2GHA;2vr;2CA;2re;2JA;2JHA;",
    "2vy;2TTA;2zb;2DDA;2sa;2NNA;2yj;2yn;2DA;2DHA;2vo;2wl;2wp;2BA;2BHA;2vb;2zv;2xb;2uo;2VA;2xq;",
    "2SSA;2xj;2tl;2RRA;1zrnAA;3I;3II;3U;3UU;3zqR;4RR;3E;3AI;3O;3AU;1nqj;2zp;2zo;2NUKTA;1qan"]⟩,
  ⟨0x118A0, ["WARANG CITIekNGAA;4A;4WI;4YU;4zv;4YO;4II;4UU;4E;4O;4ANG;4GA;4KO;4ENY;4YUJ;4UC;",
    "4ENN;4ODD;4TTE;4NUNG;4DA;4AT;4AM;4BU;4PU;4HIYO;4HOLO;4HORR;4HAR;4SSUU;4SII;4VIYO;2okNGAA;",
    "4A;4WI;4YU;4zv;4YO;4II;4UU;4E;4O;4ANG;4GA;4KO;4ENY;4YUJ;4UC;4ENN;4ODD;4TTE;4NUNG;4DA;4AT;",
    "4AM;4BU;4PU;4HIYO;4HOLO;4HORR;4HAR;4SSUU;4SII;4VIYO;2shzz;3wd;3ze;3yq;3td;3tc;3xu;3xo;3sr;",
    "3vs;2vxyl;3zd;3yo;3FORTY;3ta;3SIXTY;3xp;3EIGHTY;3vt"]⟩,
  ⟨0x118FF, ["WARANG CITI OM;DIVES AKURUkA;3AA;3I;3II;3U;3UU;3E;;;3O;;;3uk;3ul;3GA;3GHA;3vr;",
    "3CA;3re;3JA;;3vy;3TTA;;3DDA;3sa;3NNA;3yj;3yn;3DA;3DHA;3vo;3wl;3wp;3BA;3BHA;3vb;3zv;3YYA;",
    "3xb;3uo;3VA;3xq;3SSA;3xj;3tl;3LLA;3ZA;2zrnAA;4I;4II;4U;4UU;4E;;4AI;4O;;;2nqj;3ra;3HALANTA;",
    "2zo;2PREFIXED NASALn;2vgzv;2udxb;2vgxb;2nNUKTA;2frx;2GAP FILLER;2ENDvzTEXTve"]⟩,
  ⟨0x11950, ["DIVES AKURUshzz;3wd;3ze;3yq;3td;3tc;3xu;3xo;3sr;3vs"]⟩,
  ⟨0x119A0, ["NANDINAGARIkA;2AA;2I;2II;2U;2UU;2zqR;3RR;;;2E;2AI;2O;2AU;2uk;2ul;2GA;2GHA;2vr;",
    "2CA;2re;2JA;2JHA;2vy;2TTA;2zb;2DDA;2sa;2NNA;2yj;2yn;2DA;2DHA;2vo;2wl;2wp;2BA;2BHA;2vb;2zv;",
    "2xb;2uo;2VA;2xq;2SSA;2xj;2tl;2LLA;2RRA;1zrnAA;3I;3II;3U;3UU;3zqR;4RR;;;3E;3AI;3O;3AU;1nqj;",
    "2zp;2zo;2qq;2SIDDHAM;1HEADSTROKE;1zrnPRISHTHAMATRA E"]⟩,
  ⟨0x11A00, ["ZANABAZARxykA;2zrnI;4UE;4U;4E;4OE;4O;4AI;4AU;4xfI;3LENGTHve;2kuk;3ul;3GA;3GHA;",
    "3vr;3CA;3re;3JA;3vy;3TTA;3zb;3DDA;3sa;3NNA;3yj;3yn;3DA;3DHA;3vo;3wl;3wp;3BA;3BHA;3vb;3TSA;",
    "3TSHA;3DZA;3DZHA;3ZHA;3ZA;3-A;3zv;3xb;3uo;3VA;3xq;3SSA;3xj;3tl;3KSSA;2grpve;2nzo;3ra;4pwh;",
    "3CANDRApwh;3qj;3zp;2CLUSTER-INITIALkxb;2CLUSTER-FINALkzv;4xb;4uo;4VA;2udHEADve;",
    "2CLOSING HEADve;2veTSHEG;3SHAD;3fSHAD;3uyTSHEG;2udDOUBLE-LINED HEADve;",
    "2CLOSING DOUBLE-LINED HEADve;2SUBJOINER"]⟩,
  ⟨0x11A50, ["SOYOMBOkA;1zrnI;3UE;3U;3E;3O;3OE;3AI;3AU;3zqR;4L;2LENGTHve;1kuk;2ul;2GA;2GHA;2vr;",
    "2CA;2re;2JA;2JHA;2vy;2TTA;2zb;2DDA;2sa;2NNA;2yj;2yn;2DA;2DHA;2vo;2wl;2wp;2BA;2BHA;2vb;",
    "2TSA;2TSHA;2DZA;2ZHA;2ZA;2-A;2zv;2xb;2uo;2VA;2xq;2SSA;2xj;2tl;2KSSA;1nJIHVAMULIYA;",
    "2UPADHMANIYA;1CLUSTER-INITIALkxb;3uo;3xq;3xj;1grpnG;4K;4NG;4D;4N;4B;4M;4R;4L;4SH;4S;4-A;",
    "1nqj;2zp;1GEMINATIONve;1SUBJOINER;1veTSHEG;2SHAD;2fSHAD;2PLUTA;1HEADvepMOONbSUNbzaFLAME;",
    "8FLAME;6SUN;1TERMINAL MARK-1;2MARK-2"]⟩,
  ⟨0x11AB0, ["CANADIAN SYLLABICS NATTILIK HI;3HII;3HO;3HOO;3tl;3HAA;3SHRI;3SHRII;3SHRO;3SHROO;",
    "3SHRA;3SHRAA;2SPE;2SPI;2SPO;2SPA;PAU CIN HAUkwl;4uk;4uo;4vb;4DA;4ZA;4VA;4vr;4tl;4GA;4ul;",
    "4xj;4BA;4CA;4yj;4yn;4vo;4wp;4xb;4FA;4re;4A;4E;4I;4O;4U;4UA;4IA;4gP;5K;5T;5M;5N;5L;5W;5NG;",
    "5Y;3RISINGyvuy;4yv;3SANDHItgyb;3RISINGyvuyg;5g;3SANDHItgybg;4yvuy;4yv;5uyg;5g;",
    "3MID-LEVELyv;3tgybzm;3MID-LEVELyvuyg;5g;3LOW-FALLINGyvuy;4yv;3tgyb;3LOW-FALLINGyvuyg;5g;",
    "3tgybg"]⟩,
  ⟨0x11C00, ["BHAIKSUKIkA;2AA;2I;2II;2U;2UU;2zqR;3RR;3L;;2E;2AI;2O;2AU;2uk;2ul;2GA;2GHA;2vr;",
    "2CA;2re;2JA;2JHA;2vy;2TTA;2zb;2DDA;2sa;2NNA;2yj;2yn;2DA;2DHA;2vo;2wl;2wp;2BA;2BHA;2vb;2zv;",
    "2xb;2uo;2VA;2xq;2SSA;2xj;2tl;1zrnAA;3I;3II;3U;3UU;3zqR;4RR;4L;;3E;3AI;3O;3AU;1nra;2qj;2zp;",
    "2zo;2qq;1rx;1frx;1WORDxn;1GAP FILLER-1;2FILLER-2"]⟩,
  ⟨0x11C50, ["BHAIKSUKIshzz;2wd;2ze;2yq;2td;2tc;2xu;2xo;2sr;2vs;1vxwd;2ze;2yq;2td;2tc;2xu;2xo;",
    "2sr;2vs;2yl;2zd;2yo;2FORTY;2ta;2SIXTY;2xp;2EIGHTY;2vt;1HUNDREDS UNITve"]⟩,
  ⟨0x11C70, ["MARCHEN HEADve;1veSHAD;1kuk;2ul;2GA;2vr;2CA;2re;2JA;2vy;2yj;2yn;2DA;2vo;2wl;2wp;",
    "2BA;2vb;2TSA;2TSHA;2DZA;2WA;2ZHA;2ZA;2-A;2zv;2xb;2uo;2xq;2xj;2tl;2A;;;1SUBJOINEDkuk;3ul;",
    "3GA;3vr;3CA;3re;3JA;3vy;3yj;3yn;3DA;3vo;3wl;3wp;3BA;3vb;3TSA;3TSHA;3DZA;3WA;3ZHA;3ZA;;3zv;",
    "3xb;3uo;3xq;3xj;3tl;3A;1zrnAA;3I;3U;3E;3O;1nqj;2ra"]⟩,
  ⟨0x11D00, ["MASARAM GONDIkA;3AA;3I;3II;3U;3UU;3E;;3AI;3O;;3AU;3uk;3ul;3GA;3GHA;3vr;3CA;3re;",
    "3JA;3JHA;3vy;3TTA;3zb;3DDA;3sa;3NNA;3yj;3yn;3DA;3DHA;3vo;3wl;3wp;3BA;3BHA;3vb;3zv;3xb;3uo;",
    "3VA;3xq;3SSA;3xj;3tl;3LLA;3KSSA;3JNYA;3TRA;2zrnAA;4I;4II;4U;4UU;4zqR"]⟩,
  ⟨0x11D3A, ["MASARAM GONDIzrnE;;4AI;4O;;4AU;2nqj;3zp;3NUKTA;3CANDRA;3HALANTA;2zo;2REPHA;",
    "2RA-KARA"]⟩,
  ⟨0x11D50, ["MASARAM GONDIshzz;3wd;3ze;3yq;3td;3tc;3xu;3xo;3sr;3vs"]⟩,
  ⟨0x11D60, ["GUNJALA GONDIkA;3AA;3I;3II;3U;3UU;;3EE;3AI;;3OO;3AU;3zv;3VA;3BA;3BHA;3vb;3uk;3ul;",
    "3yj;3yn;3uo;3GA;3GHA;3DA;3DHA;3vo;3CA;3re;3TTA;3zb;3LLA;3JA;3JHA;3DDA;3sa;3vr;3wl;3wp;3tl;",
    "3xb;3xj;2zrnAA;4I;4II;4U;4UU;;4EE;4AI;;4OO;4AU;2nqj;3zp;2zo;2OM"]⟩,
  ⟨0x11DA0, ["GUNJALA GONDIshzz;3wd;3ze;3yq;3td;3tc;3xu;3xo;3sr;3vs"]⟩,
  ⟨0x11EE0, ["MAKASARkuk;2GA;2vr;2wl;2BA;2vb;2yj;2DA;2vo;2CA;2JA;2vy;2zv;2xb;2uo;2VA;2xj;2A;",
    "1ANGKA;1zrnI;3U;3E;3O;1PASSIMBANG;1ENDvzxm"]⟩,
  ⟨0x11FB0, ["LISUkYHA"]⟩,
  ⟨0x11FC0, ["TAMILtewdTHREE-HUNDRED-AND-TWENTIETH;3ONE-HUNDRED-AND-SIXTIETH;3EIGHTIETH;",
    "3SIXTY-FOURTH;3FORTIETH;3THIRTY-SECOND;2yqEIGHTIETHS;3SIXTY-FOURTHS;2wdTWENTIETH;",
    "3SIXTEENTH-1;3SIXTEENTH-2;3TENTH;3ss;2yqTWENTIETHS;3SIXTEENTHS;2wdFIFTH;3wx;3HALF-1;",
    "3HALF-2;2yqwy;2DOWNSCALING FACTOR KIIZH;1nNEL;2CEVITU;2AAZHAAKKU;2UZHAKKU;2MUUVUZHAKKU;",
    "2KURUNI;2PATHAKKU;2MUKKURUNI;2KAACU;2PANAM;2PON;2VARAAKAN;2PAARAM;2KUZHI;2VELI;",
    "1WET CULTIVATIONn;1DRY CULTIVATIONn;1LANDn;1SALT PANn;1TRADITIONAL CREDITn;2vxn;1CURRENTn;",
    "1bODDn;1SPENTn;1TOTALn;1IN POSSESSIONn;1STARTING FROMn;1nMUTHALIYA;2VAKAIYARAA"]⟩]

end StructGen.Text.CharacterName
